import Curfew.Proofs.Config.Settings

/-! Configs that differ below one path. A key that gives a name bears on no setting of its node, so the node says the
same whatever the key holds; and where two keys give one name, only the last of them counts. -/

namespace Curfew

/-! ### One more entry -/

namespace Fragment
variable {key v w : Value} {name : String} {before after : Entries} {settings : Settings}

theorem field?_insert (hname : childName? key = some name) {reserved : String}
    (hreserved : Directives.reservedKeys.contains reserved = true) :
    Value.field? reserved (before ++ (key, v) :: after) = Value.field? reserved (before ++ after) := by
  have hother : Value.same key (.text reserved) = false := by
    unfold childName? at hname
    cases key with
    | text n =>
      simp only at hname
      split at hname
      · cases hname
      · rename_i hfree
        have hne : n ≠ reserved := by
          rintro rfl
          exact hfree hreserved
        simpa [Value.same] using hne
    | int i => simp [Value.same, Value.sameNumber, Value.number?]
    | _ => cases hname
  unfold Value.field? Value.get?
  rw [List.find?_append, List.find?_append, List.find?_cons_of_neg (by simp [hother])]

/-- An entry under a name bears on no setting. -/
theorem says_insert (hname : childName? key = some name) :
    Says (before ++ (key, v) :: after) settings ↔ Accepted (key, v) ∧ Says (before ++ after) settings := by
  have hdirectives : Directives.ofEntries (before ++ (key, v) :: after) = Directives.ofEntries (before ++ after) := by
    unfold Directives.ofEntries Directives.under
    rw [field?_insert hname (by decide), field?_insert hname (by decide), field?_insert hname (by decide),
      field?_insert hname (by decide)]
  have hdated : (before ++ (key, v) :: after).filterMap dated? = (before ++ after).filterMap dated? := by
    rw [List.filterMap_append, List.filterMap_cons, dated?_of_childName? hname, List.filterMap_append]
  constructor
  · rintro ⟨hd, haccepted, hsettings⟩
    refine ⟨haccepted _ (by simp), hdirectives ▸ hd, fun entry he => haccepted entry ?_, hdated ▸ hsettings⟩
    rcases List.mem_append.mp he with he | he <;> simp [he]
  · rintro ⟨hentry, hd, haccepted, hsettings⟩
    refine ⟨hdirectives ▸ hd, fun entry he => ?_, hdated ▸ hsettings⟩
    rw [List.mem_append, List.mem_cons] at he
    rcases he with he | rfl | he
    · exact haccepted entry (by simp [he])
    · exact hentry
    · exact haccepted entry (by simp [he])

theorem valuesFor_insert_ne (hname : childName? key = some name) {n : String} (hn : n ≠ name) :
    valuesFor n (before ++ (key, v) :: after) = valuesFor n (before ++ after) := by
  have hne : name ≠ n := hn.symm
  unfold valuesFor
  rw [List.filterMap_append, List.filterMap_cons, List.filterMap_append]
  simp [hname, hne]

theorem valuesFor_insert (hname : childName? key = some name) :
    valuesFor name (before ++ (key, v) :: after) = valuesFor name before ++ v :: valuesFor name after := by
  unfold valuesFor
  rw [List.filterMap_append, List.filterMap_cons]
  simp [hname]

end Fragment

namespace Value
variable {key v w : Value} {name : String} {names : List String} {R : Value → Value → Prop}

theorem child?_of_nodeEntries {entries : Entries} (h : Fragment.nodeEntries v = .ok entries) (n : String) :
    v.child? n = (Fragment.valuesFor n entries).getLast? := by
  cases v <;> cases h <;> rfl

/-! ### Differing below a path -/

/-- Two configs are alike but for what one key on the way down names holds at the end of the names. -/
inductive Differs (R : Value → Value → Prop) : List String → Value → Value → Prop
  | here {v w : Value} : R v w → Differs R [] v w
  | key {key v w : Value} {before after : Entries} {name : String} {names : List String} :
    Fragment.childName? key = some name → Differs R names v w →
      Differs R (name :: names) (.map (before ++ (key, v) :: after)) (.map (before ++ (key, w) :: after))

theorem Differs.symm (hR : ∀ v w, R v w → R w v) (h : v.Differs R names w) : w.Differs R names v := by
  induction h with
  | here h => exact .here (hR _ _ h)
  | key hname _ ih => exact .key hname ih

/-- Under other names the same is held, and under the name of the key as well if a later key gives the name too. -/
theorem child?_of_differs (h : v.Differs R (name :: names) w) : (∀ n, n ≠ name → v.child? n = w.child? n) ∧
    (v.child? name = w.child? name ∨
      ∃ x y, v.child? name = some x ∧ w.child? name = some y ∧ x.Differs R names y) := by
  cases h with
  | @key key x y before after _ _ hname hdiffers =>
    refine ⟨fun n hn => ?_, ?_⟩
    · rw [child?, child?, Fragment.valuesFor_insert_ne hname hn, Fragment.valuesFor_insert_ne hname hn]
    · rw [child?, child?, Fragment.valuesFor_insert hname, Fragment.valuesFor_insert hname]
      rcases List.eq_nil_or_concat (Fragment.valuesFor name after) with hlast | ⟨more, last, hlast⟩
      · rw [hlast]
        exact Or.inr ⟨x, y, by simp, by simp, hdiffers⟩
      · rw [hlast]
        exact Or.inl (by simp [List.getLast?_append, List.getLast?_cons])

/-- Nodes that differ under a name only have the same settings. -/
theorem settings_eq_of_differs (h : v.Differs R (name :: names) w) {settings settings' : Settings}
    (hv : v.Says settings) (hw : w.Says settings') : settings = settings' := by
  cases h with
  | key hname _ =>
    obtain ⟨_, hentries, hv⟩ := hv
    obtain ⟨_, hentries', hw⟩ := hw
    cases hentries
    cases hentries'
    have hsame := ((Fragment.says_insert hname).mp hv).2
    have hsame' := ((Fragment.says_insert hname).mp hw).2
    have hdirectives : settings.directives = settings'.directives :=
      Except.ok.inj (hsame.directives.symm.trans hsame'.directives)
    have hdated : settings.dated = settings'.dated := hsame.dated.trans hsame'.dated.symm
    cases settings
    cases settings'
    obtain rfl := hdirectives
    obtain rfl := hdated
    rfl

/-! ### Gaining an entry -/

/-- A node gains a key that holds nothing, or a mapping of nothing. -/
inductive Gains (key : Value) : Value → Value → Prop
  | intro {v u : Value} {before after : Entries} : Fragment.nodeEntries v = .ok (before ++ after) → u = .null ∨ u = .map [] →
    Gains key v (.map (before ++ (key, u) :: after))

theorem nodeEntries_of_empty (h : v = .null ∨ v = .map []) : Fragment.nodeEntries v = .ok [] := by
  rcases h with rfl | rfl <;> rfl

theorem says_of_empty (h : v = .null ∨ v = .map []) : v.Says .empty :=
  ⟨[], nodeEntries_of_empty h, rfl, by simp, rfl⟩

theorem child?_of_empty (h : v = .null ∨ v = .map []) (n : String) : v.child? n = none := by
  rw [child?_of_nodeEntries (nodeEntries_of_empty h)]
  rfl

theorem says_of_gains (hname : Fragment.childName? key = some name) (hsegment : Fragment.isSegment name = true)
    (h : Gains key v w) {settings : Settings} (hv : v.Says settings) : w.Says settings := by
  cases h with
  | intro hentries hempty =>
    obtain ⟨entries, hentries', hv⟩ := hv
    obtain rfl := Except.ok.inj (hentries'.symm.trans hentries)
    have haccepted := (Fragment.accepted_of_childName? hname).mpr ⟨⟨[], nodeEntries_of_empty hempty⟩, hsegment⟩
    exact ⟨_, rfl, (Fragment.says_insert hname).mpr ⟨haccepted, hv⟩⟩

theorem child?_of_gains (hname : Fragment.childName? key = some name) (h : Gains key v w) (hfree : v.child? name = none) :
    (∀ n, n ≠ name → w.child? n = v.child? n) ∧ ∃ u, w.child? name = some u ∧ (u = .null ∨ u = .map []) := by
  cases h with
  | @intro u before after hentries hempty =>
    refine ⟨fun n hn => ?_, u, ?_, hempty⟩
    · rw [child?, Fragment.valuesFor_insert_ne hname hn, child?_of_nodeEntries hentries]
    · rw [child?_of_nodeEntries hentries, List.getLast?_eq_none_iff, Fragment.valuesFor, List.filterMap_append,
        List.append_eq_nil_iff] at hfree
      have hafter : Fragment.valuesFor name after = [] := hfree.2
      rw [child?, Fragment.valuesFor_insert hname, hafter, List.getLast?_append]
      rfl

/-- A mapping below which a node gains an entry says what it said before. -/
theorem says_of_differs (h : v.Differs (Gains key) (name :: names) w) {settings : Settings} (hv : v.Says settings) :
    w.Says settings := by
  cases h with
  | @key k x y before after _ _ hname hdiffers =>
    obtain ⟨_, hentries, hv⟩ := hv
    cases hentries
    obtain ⟨haccepted, hrest⟩ := (Fragment.says_insert hname).mp hv
    have hsegment := ((Fragment.accepted_of_childName? hname).mp haccepted).2
    have hmapping : ∃ entries, Fragment.nodeEntries y = .ok entries := by
      cases hdiffers with
      | here hgains =>
        cases hgains
        exact ⟨_, rfl⟩
      | key => exact ⟨_, rfl⟩
    exact ⟨_, rfl, (Fragment.says_insert hname).mpr ⟨(Fragment.accepted_of_childName? hname).mpr ⟨hmapping, hsegment⟩, hrest⟩⟩

end Value

end Curfew
