import Curfew.Proofs.Config.Defaults
import Curfew.Proofs.Config.Settings
import Curfew.Proofs.Value.Entries

/-! Configs whose keys are in another order. Settings are read by their keys and children by their names, so a node says
the same in every order of its keys, but for the order of its dated policies. -/

namespace Curfew

namespace Value

/-! ### The order of keys -/

/-- Two values are the same but for the order of the keys of mappings in them. A mapping has no key twice. -/
inductive Reordered : Value → Value → Prop
  | same (v : Value) : Reordered v v
  | list {xs ys : List Value} : xs.length = ys.length →
    (∀ (i : Nat) v w, xs[i]? = some v → ys[i]? = some w → Reordered v w) → Reordered (.list xs) (.list ys)
  | tuple {xs ys : List Value} : xs.length = ys.length →
    (∀ (i : Nat) v w, xs[i]? = some v → ys[i]? = some w → Reordered v w) → Reordered (.tuple xs) (.tuple ys)
  | map {ps qs : Entries} : (ps.map (·.1)).Nodup → (ps.map (·.1)).Perm (qs.map (·.1)) →
    (∀ k v w, (k, v) ∈ ps → (k, w) ∈ qs → Reordered v w) → Reordered (.map ps) (.map qs)

/-- Mappings with the same keys in some order, and under each key values that are reordered. -/
structure Shuffled (ps qs : Entries) : Prop where
  nodup : (ps.map (·.1)).Nodup
  keys : (ps.map (·.1)).Perm (qs.map (·.1))
  values : ∀ k v w, (k, v) ∈ ps → (k, w) ∈ qs → Reordered v w

variable {ps qs : Entries} {v w : Value}

/-- What is no list, tuple or mapping has nothing to reorder. -/
theorem Reordered.eq (h : Reordered v w) (hlist : ∀ xs, v ≠ .list xs) (htuple : ∀ xs, v ≠ .tuple xs)
    (hmap : ∀ es, v ≠ .map es) : w = v := by
  cases h with
  | same => rfl
  | list => exact absurd rfl (hlist _)
  | tuple => exact absurd rfl (htuple _)
  | map => exact absurd rfl (hmap _)

/-- Two keys may change places. -/
theorem reordered_swap {k k' x x' y y' : Value} (hne : k ≠ k') (hx : Reordered x y) (hx' : Reordered x' y') :
    Reordered (.map [(k, x), (k', x')]) (.map [(k', y'), (k, y)]) := by
  refine .map (by simp [hne]) (List.Perm.swap _ _ _) fun key v w hv hw => ?_
  simp only [List.mem_cons, Prod.mk.injEq, List.not_mem_nil, or_false] at hv hw
  rcases hv with ⟨rfl, rfl⟩ | ⟨rfl, rfl⟩
  · obtain ⟨-, rfl⟩ := hw.resolve_left fun hk => hne hk.1
    exact hx
  · obtain ⟨-, rfl⟩ := hw.resolve_right fun hk => hne hk.1.symm
    exact hx'

namespace Shuffled

theorem nodup' (h : Shuffled ps qs) : (qs.map (·.1)).Nodup := h.keys.nodup_iff.mp h.nodup

theorem forth (h : Shuffled ps qs) {k v : Value} (hv : (k, v) ∈ ps) : ∃ w, (k, w) ∈ qs ∧ Reordered v w := by
  have hk : k ∈ qs.map (·.1) := h.keys.mem_iff.mp (List.mem_map_of_mem (f := (·.1)) hv)
  obtain ⟨⟨_, w⟩, hw, rfl⟩ := List.mem_map.mp hk
  exact ⟨w, hw, h.values _ v w hv hw⟩

theorem back (h : Shuffled ps qs) {k w : Value} (hw : (k, w) ∈ qs) : ∃ v, (k, v) ∈ ps ∧ Reordered v w := by
  have hk : k ∈ ps.map (·.1) := h.keys.mem_iff.mpr (List.mem_map_of_mem (f := (·.1)) hw)
  obtain ⟨⟨_, v⟩, hv, rfl⟩ := List.mem_map.mp hk
  exact ⟨v, hv, h.values _ v w hv hw⟩

/-- What is told of the keys alone is told of both. -/
theorem forall_keys (h : Shuffled ps qs) (P : Value → Prop) : (∀ entry ∈ ps, P entry.1) ↔ ∀ entry ∈ qs, P entry.1 := by
  have keys : ∀ es : Entries, (∀ entry ∈ es, P entry.1) ↔ ∀ k ∈ es.map (·.1), P k := fun es => by
    rw [List.forall_mem_map]
  rw [keys, keys]
  simp only [h.keys.mem_iff]

theorem filterMap_perm {α : Type} (h : Shuffled ps qs) (f : Value → Option α) :
    (ps.filterMap fun entry => f entry.1).Perm (qs.filterMap fun entry => f entry.1) := by
  have hkeys := h.keys.filterMap f
  rwa [List.filterMap_map, List.filterMap_map] at hkeys

end Shuffled

/-! ### Values by their keys -/

theorem Shuffled.field? (h : Shuffled ps qs) (name : String) :
    Option.Rel Reordered (Value.field? name ps) (Value.field? name qs) := by
  cases hv : Value.field? name ps with
  | some v =>
    obtain ⟨w, hw, hvw⟩ := h.forth ((field?_eq_some h.nodup).mp hv)
    rw [(field?_eq_some h.nodup').mpr hw]
    exact .some hvw
  | none =>
    cases hw : Value.field? name qs with
    | none => exact .none
    | some w =>
      obtain ⟨v, hv', -⟩ := h.back ((field?_eq_some h.nodup').mp hw)
      cases hv.symm.trans ((field?_eq_some h.nodup).mpr hv')

end Value

open Value

/-! ### Settings -/

theorem Checked.inside_eq_ok {α : Type} {step : Step} {x : Checked α} {a : α} :
    Checked.inside step x = .ok a ↔ x = .ok a := mapError_eq_ok

theorem Checked.text_reordered {v w : Value} {s : String} (h : Reordered v w) (hv : Checked.text v = .ok s) : w = v := by
  cases v with
  | text => exact h.eq (by simp) (by simp) (by simp)
  | bytes => exact h.eq (by simp) (by simp) (by simp)
  | _ => cases hv

theorem Checked.text_of_texts {xs : List Value} : ∀ {start : Nat} {r : List String}, Checked.texts start xs = .ok r →
    ∀ x ∈ xs, ∃ s, Checked.text x = .ok s := by
  induction xs with
  | nil => simp
  | cons x xs ih =>
    intro start r h
    unfold Checked.texts at h
    split at h
    · rename_i s rest hx hrest
      exact List.forall_mem_cons.mpr ⟨⟨s, Checked.inside_eq_ok.mp hx⟩, ih hrest⟩
    · cases h

theorem Checked.texts_reordered {xs ys : List Value} {start : Nat} {r : List String} (hr : Checked.texts start xs = .ok r)
    (hlength : xs.length = ys.length) (hitems : ∀ (i : Nat) v w, xs[i]? = some v → ys[i]? = some w → Reordered v w) : ys = xs := by
  refine List.ext_getElem? fun i => ?_
  cases hx : xs[i]? with
  | none =>
    rw [List.getElem?_eq_none_iff] at hx ⊢
    omega
  | some x =>
    have hi : i < ys.length := by
      have := (List.getElem?_eq_some_iff.mp hx).1
      omega
    have hy : ys[i]? = some ys[i] := List.getElem?_eq_getElem hi
    obtain ⟨s, hs⟩ := Checked.text_of_texts hr x (List.mem_of_getElem? hx)
    rw [hy, Checked.text_reordered (hitems i x _ hx hy) hs]

namespace ModeSpec

theorem field_eq_ok {name s : String} {es : Entries} :
    field name es = .ok s ↔ ∃ v, Value.field? name es = some v ∧ Checked.nonEmptyText (expression v) = .ok s := by
  unfold field
  rw [Checked.inside_eq_ok]
  cases Value.field? name es <;> simp [Checked.refuse]

/-- The keys of a mapping of expressions: texts without surrogates, and none but the two that are read. -/
def IsKey (k : Value) : Prop := ∃ name, k = .text name ∧ Text.Surrogate.isIn name = false ∧ (name = "dir" ∨ name = "file")

theorem isKey_iff {es : Entries} : (∀ entry ∈ es, IsKey entry.1) ↔
    hasSurrogateKey es = false ∧ badKeys es = [] ∧ unexpected es = [] := by
  unfold hasSurrogateKey badKeys unexpected
  rw [List.any_eq_false, List.filterMap_eq_nil_iff, List.filterMap_eq_nil_iff]
  constructor
  · intro hall
    refine ⟨fun entry he => ?_, fun entry he => ?_, fun entry he => ?_⟩ <;>
      · obtain ⟨name, hk, hgenuine, hname⟩ := hall entry he
        simp [hk, hgenuine, hname]
  · rintro ⟨hgenuine, hbad, hextra⟩ ⟨k, v⟩ he
    have hgenuine := hgenuine _ he
    have hbad := hbad _ he
    have hextra := hextra _ he
    cases k with
    | text name => exact ⟨name, rfl, by simpa using hgenuine, Decidable.or_iff_not_imp_left.mpr (by simpa using hextra)⟩
    | _ => cases hbad

theorem ofEntries_eq_ok {es : Entries} {spec : ModeSpec} : ofEntries es = .ok spec ↔
    (∀ entry ∈ es, IsKey entry.1) ∧ field "dir" es = .ok spec.dir ∧ field "file" es = .ok spec.file := by
  rw [isKey_iff]
  unfold ofEntries
  constructor
  · intro h
    split at h
    · cases h
    · rename_i hsurrogate
      split at h
      · rename_i hbad
        split at h
        · rename_i dir file hdir hfile hextra
          cases h
          exact ⟨⟨by simpa using hsurrogate, hbad, hextra⟩, hdir, hfile⟩
        · cases h
      · cases h
  · rintro ⟨⟨hsurrogate, hbad, hextra⟩, hdir, hfile⟩
    rw [if_neg (by simp [hsurrogate]), hbad, hdir, hfile, hextra]

theorem field_shuffled {ps qs : Entries} (h : Shuffled ps qs) {name s : String} (hs : field name ps = .ok s) :
    field name qs = .ok s := by
  obtain ⟨v, hv, hvs⟩ := field_eq_ok.mp hs
  have hrel := h.field? name
  rw [hv] at hrel
  cases hw : Value.field? name qs with
  | none =>
    rw [hw] at hrel
    cases hrel
  | some w =>
    rw [hw] at hrel
    obtain ⟨hvw⟩ := hrel
    have hsame : w = v := by
      refine hvw.eq ?_ ?_ ?_ <;>
        · rintro x rfl
          cases hvs
    exact field_eq_ok.mpr ⟨w, hw, hsame ▸ hvs⟩

theorem ofValue_reordered {v w : Value} {spec : ModeSpec} (h : Reordered v w) (hv : ofValue v = .ok spec) :
    ofValue w = .ok spec := by
  have single : ∀ x, ofEntries [(.text "dir", expression x), (.text "file", expression x)] = .ok spec →
      ∃ s, Checked.nonEmptyText (expression (expression x)) = .ok s := fun x hx => by
    obtain ⟨-, hdir, -⟩ := ofEntries_eq_ok.mp hx
    obtain ⟨y, hy, hs⟩ := field_eq_ok.mp hdir
    have hfirst : Value.field? "dir" [(.text "dir", expression x), (.text "file", expression x)] = some (expression x) := by
      simp [Value.field?, Value.get?, Value.same]
    obtain rfl : expression x = y := Option.some.inj (hfirst.symm.trans hy)
    exact ⟨spec.dir, hs⟩
  cases h with
  | same => exact hv
  | list => cases (single _ hv).choose_spec
  | tuple => cases (single _ hv).choose_spec
  | map hnodup hkeys hvalues =>
    have hshuffled : Shuffled _ _ := ⟨hnodup, hkeys, hvalues⟩
    obtain ⟨hkey, hdir, hfile⟩ := ofEntries_eq_ok.mp hv
    refine ofEntries_eq_ok.mpr ⟨(hshuffled.forall_keys IsKey).mp hkey, ?_, ?_⟩
    · exact field_shuffled hshuffled hdir
    · exact field_shuffled hshuffled hfile

end ModeSpec

namespace Directives
variable {ps qs : Entries}

theorem checkMode_reordered {a b : Option Value} {r : Option ModeSpec} (h : Option.Rel Reordered a b)
    (ha : checkMode a = .ok r) : checkMode b = .ok r := by
  cases h with
  | none => exact ha
  | @some v w hvw =>
    by_cases hnull : v = .null
    · subst hnull
      obtain rfl : w = .null := hvw.eq (by simp) (by simp) (by simp)
      exact ha
    · have hnull' : w ≠ .null := by
        rintro rfl
        cases hvw
        exact hnull rfl
      rw [checkMode_some hnull] at ha
      rw [checkMode_some hnull']
      cases hspec : ModeSpec.ofValue v with
      | error issues => simp [hspec, Except.map] at ha
      | ok spec =>
        rw [ModeSpec.ofValue_reordered hvw hspec, ← hspec]
        exact ha

theorem checkGroup_reordered {a b : Option Value} {r : Option String} (h : Option.Rel Reordered a b)
    (ha : checkGroup a = .ok r) : checkGroup b = .ok r := by
  cases h with
  | none => exact ha
  | @some v w hvw =>
    have hsame : w = v := by
      refine hvw.eq ?_ ?_ ?_ <;>
        · rintro x rfl
          cases ha
    rw [hsame]
    exact ha

theorem checkPatterns_reordered {a b : Option Value} {r : List String} (h : Option.Rel Reordered a b)
    (ha : checkPatterns a = .ok r) : checkPatterns b = .ok r := by
  cases h with
  | none => exact ha
  | some hvw =>
    cases hvw with
    | same => exact ha
    | list hlength hitems => rwa [Checked.texts_reordered ha hlength hitems]
    | tuple hlength hitems => rwa [Checked.texts_reordered ha hlength hitems]
    | map => cases ha

theorem under_shuffled {α : Type} {check : Option Value → Checked α} {name : String} {r : α} (h : Shuffled ps qs)
    (hcheck : ∀ a b, Option.Rel Reordered a b → check a = .ok r → check b = .ok r) (hr : under name check ps = .ok r) :
    under name check qs = .ok r := by
  unfold under at hr ⊢
  rw [Checked.inside_eq_ok] at hr ⊢
  exact hcheck _ _ (h.field? name) hr

theorem ofEntries_eq_ok {es : Entries} {d : Directives} : ofEntries es = .ok d ↔
    under "mode" checkMode es = .ok d.mode ∧ under "group" checkGroup es = .ok d.group ∧
      under "exclude" checkPatterns es = .ok d.excludes ∧ under "include" checkPatterns es = .ok d.includes := by
  unfold ofEntries
  constructor
  · intro h
    split at h
    · rename_i mode group excludes includes hmode hgroup hexcludes hincludes
      cases h
      exact ⟨hmode, hgroup, hexcludes, hincludes⟩
    · cases h
  · rintro ⟨hmode, hgroup, hexcludes, hincludes⟩
    rw [hmode, hgroup, hexcludes, hincludes]

theorem ofEntries_shuffled {d : Directives} (h : Shuffled ps qs) (hd : ofEntries ps = .ok d) : ofEntries qs = .ok d := by
  obtain ⟨hmode, hgroup, hexcludes, hincludes⟩ := ofEntries_eq_ok.mp hd
  refine ofEntries_eq_ok.mpr ⟨?_, ?_, ?_, ?_⟩
  · exact under_shuffled h (fun _ _ => checkMode_reordered) hmode
  · exact under_shuffled h (fun _ _ => checkGroup_reordered) hgroup
  · exact under_shuffled h (fun _ _ => checkPatterns_reordered) hexcludes
  · exact under_shuffled h (fun _ _ => checkPatterns_reordered) hincludes

end Directives

/-! ### Nodes -/

namespace Fragment
variable {ps qs : Entries} {settings settings' : Settings} {k v w : Value}

/-- The instant that a key denotes, if it is a time. -/
def instant? : Value → Option Int
  | .time date => some date.stampOf.instant
  | _ => none

theorem nodeEntries_reordered (h : Reordered v w) {es : Entries} (hv : nodeEntries v = .ok es) :
    ∃ es', nodeEntries w = .ok es' := by
  cases h with
  | same => exact ⟨es, hv⟩
  | map => exact ⟨_, rfl⟩
  | list => cases hv
  | tuple => cases hv

theorem accepted_reordered (h : Reordered v w) (hv : Accepted (k, v)) : Accepted (k, w) := by
  have child : ∀ {name}, childName? k = some name → Accepted (k, w) := fun {name} hname => by
    obtain ⟨⟨es, hes⟩, hsegment⟩ := (accepted_of_childName? hname).mp hv
    exact (accepted_of_childName? hname).mpr ⟨nodeEntries_reordered h hes, hsegment⟩
  cases k with
  | text name =>
    by_cases hreserved : Directives.reservedKeys.contains name = true
    · exact fun f => ⟨f, if_pos hreserved⟩
    · exact child (if_neg hreserved)
  | int i => exact child rfl
  | time date =>
    obtain ⟨spec, hspec⟩ := accepted_time.mp hv
    exact accepted_time.mpr ⟨spec, ModeSpec.ofValue_reordered h hspec⟩
  | _ =>
    obtain ⟨_, hg⟩ := hv { settings := .empty, children := [] }
    cases hg

theorem dated?_eq_some {date : When} {spec : ModeSpec} {entry : Value × Value} : dated? entry = some (date, spec) ↔
    entry.1 = .time date ∧ ModeSpec.ofValue entry.2 = .ok spec := by
  obtain ⟨k, v⟩ := entry
  unfold dated?
  cases k with
  | time date' =>
    cases ModeSpec.ofValue v with
    | ok spec' => simp [Except.toOption]
    | error issues => simp [Except.toOption]
  | _ => simp

/-- A node says the same in every order of its keys, but for the order of its dated policies. -/
theorem says_shuffled (h : Shuffled ps qs) (hs : Says ps settings) :
    Says qs { settings with dated := qs.filterMap dated? } ∧ ∀ d, d ∈ qs.filterMap dated? ↔ d ∈ settings.dated := by
  refine ⟨⟨Directives.ofEntries_shuffled h hs.directives, ?_, rfl⟩, fun ⟨date, spec⟩ => ?_⟩
  · rintro ⟨k, w⟩ hw
    obtain ⟨v, hv, hvw⟩ := h.back hw
    exact accepted_reordered hvw (hs.accepted _ hv)
  · rw [hs.dated, List.mem_filterMap, List.mem_filterMap]
    simp only [dated?_eq_some]
    constructor
    · rintro ⟨⟨_, w⟩, hw, rfl, hspec⟩
      obtain ⟨v, hv, hvw⟩ := h.back hw
      obtain ⟨spec', hspec'⟩ := accepted_time.mp (hs.accepted _ hv)
      obtain rfl : spec' = spec := Except.ok.inj ((ModeSpec.ofValue_reordered hvw hspec').symm.trans hspec)
      exact ⟨(.time date, v), hv, rfl, hspec'⟩
    · rintro ⟨⟨_, v⟩, hv, rfl, hspec⟩
      obtain ⟨w, hw, hvw⟩ := h.forth hv
      exact ⟨(.time date, w), hw, rfl, ModeSpec.ofValue_reordered hvw hspec⟩

theorem instants_nodup (hs : Says ps settings) (hn : (ps.filterMap fun entry => instant? entry.1).Nodup) :
    (settings.dated.map fun dated => dated.1.stampOf.instant).Nodup := by
  have hsub : ∀ es : Entries, ((es.filterMap dated?).map fun dated => dated.1.stampOf.instant).Sublist
      (es.filterMap fun entry => instant? entry.1) := fun es => by
    induction es with
    | nil => exact .slnil
    | cons entry es ih =>
      obtain ⟨k, v⟩ := entry
      rw [List.filterMap_cons, List.filterMap_cons]
      cases hdated : dated? (k, v) with
      | none =>
        cases instant? k with
        | none => exact ih
        | some i => exact ih.cons i
      | some dated =>
        obtain ⟨rfl, -⟩ := dated?_eq_some.mp hdated
        exact ih.cons_cons _
  rw [hs.dated]
  exact (hsub ps).nodup hn

end Fragment

namespace Value
variable {v w : Value} {settings : Settings}

/-- No two keys of a mapping in a config that nodes are read from denote one instant. -/
def TellsTimesApart (config : Value) : Prop :=
  ∀ names entries, Leads names config (.map entries) → (entries.filterMap fun entry => Fragment.instant? entry.1).Nodup

/-- Settings with the same dated policies in some order, no two of one instant. -/
structure SameSettings (settings settings' : Settings) : Prop where
  directives : settings.directives = settings'.directives
  dated : ∀ d, d ∈ settings.dated ↔ d ∈ settings'.dated
  nodup : (settings.dated.map fun dated => dated.1.stampOf.instant).Nodup
  nodup' : (settings'.dated.map fun dated => dated.1.stampOf.instant).Nodup

theorem says_reordered (h : Reordered v w) (ht : v.TellsTimesApart) (hs : v.Says settings) :
    ∃ settings', w.Says settings' ∧ SameSettings settings settings' := by
  obtain ⟨es, hes, hs⟩ := hs
  have hinstants : (es.filterMap fun entry => Fragment.instant? entry.1).Nodup := by
    cases v <;> cases hes
    · exact List.nodup_nil
    · exact ht [] _ (.here _)
  have hnodup := Fragment.instants_nodup hs hinstants
  cases h with
  | same => exact ⟨settings, ⟨es, hes, hs⟩, rfl, fun _ => Iff.rfl, hnodup, hnodup⟩
  | list => cases hes
  | tuple => cases hes
  | map hkeysnodup hkeys hvalues =>
    cases hes
    have hshuffled : Shuffled _ _ := ⟨hkeysnodup, hkeys, hvalues⟩
    obtain ⟨hs', hdated⟩ := Fragment.says_shuffled hshuffled hs
    refine ⟨_, ⟨_, rfl, hs'⟩, rfl, fun d => (hdated d).symm, hnodup, ?_⟩
    exact Fragment.instants_nodup hs' ((hshuffled.filterMap_perm Fragment.instant?).nodup_iff.mp hinstants)

theorem child?_reordered (h : Reordered v w) (ha : v.TellsApart) (name : String) :
    Option.Rel Reordered (v.child? name) (w.child? name) := by
  cases h with
  | same =>
    cases v.child? name with
    | none => exact .none
    | some x => exact .some (.same x)
  | list => exact .none
  | tuple => exact .none
  | @map ps qs hkeysnodup hkeys hvalues =>
    have hshuffled : Shuffled ps qs := ⟨hkeysnodup, hkeys, hvalues⟩
    have hn := ha [] _ (.here _)
    have hn' := (hshuffled.filterMap_perm Fragment.childName?).nodup_iff.mp hn
    by_cases hgiven : ∃ k x, (k, x) ∈ ps ∧ Fragment.childName? k = some name
    · obtain ⟨k, x, hx, hname⟩ := hgiven
      obtain ⟨y, hy, hxy⟩ := hshuffled.forth hx
      rw [child?, child?, valuesFor_eq_of_nodup hn hx hname, valuesFor_eq_of_nodup hn' hy hname]
      exact .some hxy
    · have none : ∀ es : Entries, (∀ entry ∈ es, Fragment.childName? entry.1 ≠ some name) →
          (Value.map es).child? name = .none := fun es hes => by
        have hvalues : Fragment.valuesFor name es = [] :=
          List.filterMap_eq_nil_iff.mpr fun entry he => if_neg (hes entry he)
        rw [child?, hvalues]
        rfl
      have hps : ∀ entry ∈ ps, Fragment.childName? entry.1 ≠ some name := fun entry he hname =>
        hgiven ⟨entry.1, entry.2, he, hname⟩
      have hqs := (hshuffled.forall_keys fun k => Fragment.childName? k ≠ some name).mp hps
      rw [none ps hps, none qs hqs]
      exact .none

theorem leads_of_child? {name : String} (h : v.child? name = some w) {names : List String} {x : Value}
    (hx : Leads names w x) : Leads (name :: names) v x := by
  obtain ⟨key, entries, rfl, hmem, hname⟩ := mem_of_child? h
  exact .key hmem hname hx

/-- What is told of the mapping of a node and of those below each of its keys is told of all below the node. -/
theorem forall_leads_map {P : Entries → Prop} {es : Entries} (here : P es)
    (below : ∀ entry ∈ es, ∀ names entries, Leads names entry.2 (.map entries) → P entries) :
    ∀ names entries, Leads names (.map es) (.map entries) → P entries := by
  intro names entries h
  cases h with
  | here => exact here
  | key hmem _ hl => exact below _ hmem _ _ hl

theorem sizeOf_child? {name : String} (h : v.child? name = some w) : sizeOf w < sizeOf v := by
  obtain ⟨key, entries, rfl, hmem, -⟩ := mem_of_child? h
  have hlt := List.sizeOf_lt_of_mem hmem
  simp only [Prod.mk.sizeOf_spec] at hlt
  simp only [Value.map.sizeOf_spec]
  omega

end Value

end Curfew
