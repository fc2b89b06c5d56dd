import Curfew.Proofs.Config.Loading
import Curfew.Proofs.Config.Settings
import Curfew.Proofs.Value.Entries
import Curfew.Proofs.Yaml.Numerals

/-! Names made of digits. A bare one is a whole number before it is a name again, so it stays what it is written as unless
it is read in base eight; between quotes it is a name from the start. Either way it has to fit into the length of a key. -/

namespace Curfew

/-! ### Names -/

namespace Fragment
variable {digits : List Char} {key : Value} {name : String}

theorem ne_ofList_digits (hdigits : ∀ c ∈ digits, c.isDigit = true) {s : String} {c : Char} {rest : List Char}
    (hs : s.toList = c :: rest) (hc : c.isDigit = false) : String.ofList digits ≠ s := by
  rintro rfl
  rw [String.toList_ofList] at hs
  exact Yaml.ne_cons_digits hdigits hc rest hs

theorem isSegment_digits (hne : digits ≠ []) (hdigits : ∀ c ∈ digits, c.isDigit = true) :
    isSegment (String.ofList digits) = true := by
  have hdot : String.ofList digits ≠ "." := ne_ofList_digits hdigits (c := '.') rfl (by decide)
  have hdots : String.ofList digits ≠ ".." := ne_ofList_digits hdigits (c := '.') rfl (by decide)
  have hslash : '/' ∉ digits := Yaml.not_mem_digits hdigits (by decide)
  simp [isSegment, hdot, hdots, hslash, hne]

theorem childName?_digits (hdigits : ∀ c ∈ digits, c.isDigit = true) :
    childName? (.text (String.ofList digits)) = some (String.ofList digits) := by
  have hmode : String.ofList digits ≠ "mode" := ne_ofList_digits hdigits (c := 'm') rfl (by decide)
  have hgroup : String.ofList digits ≠ "group" := ne_ofList_digits hdigits (c := 'g') rfl (by decide)
  have hexclude : String.ofList digits ≠ "exclude" := ne_ofList_digits hdigits (c := 'e') rfl (by decide)
  have hinclude : String.ofList digits ≠ "include" := ne_ofList_digits hdigits (c := 'i') rfl (by decide)
  refine if_neg ?_
  simp [Directives.reservedKeys, hmode, hgroup, hexclude, hinclude]

theorem isSegment_name (hne : digits ≠ []) (hdigits : ∀ c ∈ digits, c.isDigit = true) :
    isSegment (String.ofList (Yaml.Numeral.name digits)) = true := by
  unfold Yaml.Numeral.name
  split
  · exact isSegment_digits (Text.digits_ne_nil _ _) fun c hc => (Text.isDigit_of_mem_digits _ c hc).1
  · exact isSegment_digits hne hdigits

/-- The value of bare digits is a key for the name they give. -/
theorem exists_gives (hne : digits ≠ []) (hdigits : ∀ c ∈ digits, c.isDigit = true) : ∃ v,
    Yaml.OneKey.Gives digits true v ∧ childName? v = some (String.ofList (Yaml.Numeral.name digits)) := by
  have htag : Yaml.Composing.scalarTag digits true none = if Yaml.Tag.isInt digits then .int else .text :=
    Yaml.Tag.ofText_digits hdigits hne
  have hgives : ∀ {i : Int}, Yaml.Tag.isInt digits = true → Yaml.Scalar.intOf digits = .ok i →
      Yaml.OneKey.Gives digits true (.int i) := fun hint hvalue => by
    rw [if_pos hint] at htag
    exact ⟨Or.inl htag, by rw [htag, Yaml.Scalar.value, hvalue]; rfl⟩
  cases hoctal : Yaml.Numeral.isOctal digits with
  | true =>
    obtain ⟨hint, hvalue⟩ := Yaml.Numeral.intOf_of_isOctal hdigits hoctal
    refine ⟨_, hgives hint hvalue, ?_⟩
    rw [Yaml.Numeral.name, if_pos hoctal]
    rfl
  | false =>
    rw [Yaml.Numeral.name_eq_self.mpr hoctal]
    cases hint : Yaml.Tag.isInt digits with
    | true =>
      obtain ⟨n, hvalue, hn⟩ := Yaml.Numeral.intOf_of_not_isOctal hne hdigits hoctal hint
      refine ⟨_, hgives hint hvalue, ?_⟩
      rw [← hn]
      rfl
    | false =>
      rw [if_neg (by simp [hint])] at htag
      exact ⟨_, ⟨Or.inr htag, by rw [htag]; rfl⟩, childName?_digits hdigits⟩

/-- A mapping of one name that has nothing below it. -/
theorem ofEntries_alone (hname : childName? key = some name) (hsegment : isSegment name = true) :
    ofEntries [(key, .map [])] = .ok { settings := .empty, children := [(name, [])] } := by
  have habsent : ∀ setting ∈ Directives.reservedKeys, Value.field? setting [(key, .map [])] = none := by
    refine fun setting hsetting => Value.field?_absent ?_ _
    rintro rfl
    rw [childName?, if_pos (List.contains_iff_mem.mpr hsetting)] at hname
    cases hname
  have hdirectives : Directives.ofEntries [(key, .map [])] = .ok .empty := by
    unfold Directives.ofEntries Directives.under
    rw [habsent _ (by decide), habsent _ (by decide), habsent _ (by decide), habsent _ (by decide)]
    rfl
  unfold ofEntries
  rw [hdirectives]
  show [(key, .map [])].foldlM add { settings := .empty, children := [] } = _
  rw [List.foldlM_cons, add_of_childName? hname, addChild_eq_ok.mpr ⟨[], rfl, hsegment, rfl⟩]
  rfl

end Fragment

namespace Outline

theorem ofEntries_eq_node {entries : Entries} {f : Fragment} (h : Fragment.ofEntries entries = .ok f) :
    ofEntries entries = .node entries f.settings (f.children.map fun child => (child.1, ofEntries child.2)) := by
  rw [ofEntries]
  split
  · rename_i fault hfault
    cases hfault.symm.trans h
  · rename_i g hg
    obtain rfl : g = f := Except.ok.inj (hg.symm.trans h)
    exact congrArg (Outline.node entries g.settings)
      (List.attach_map_val (f := fun child : String × Entries => (child.1, ofEntries child.2)))

theorem count_alone {entries : Entries} {settings : Settings} {name : String} (location : String)
    (h : Fragment.ofEntries entries = .ok { settings, children := [(name, [])] }) :
    (ofEntries entries).count location = .ok 2 := by
  have hempty : ofEntries [] = .node [] .empty [] := ofEntries_eq_node (f := { settings := .empty, children := [] }) rfl
  rw [ofEntries_eq_node h, List.map_singleton, hempty]
  rfl

end Outline

namespace Document

/-- The line of a key with nothing below it. -/
def keyLine (key ending : List Char) : String := String.ofList (key ++ Yaml.OneKey.behindKey ending)

/-- A text is a config of one name, which has nothing below it. -/
def IsName (text : String) (path : Option String) (validate : Bool) (name : List Char) : Prop :=
  ∃ entries, (ofText text path validate).outcome = .ok entries ∧
    Fragment.ofEntries entries = .ok { settings := .empty, children := [(String.ofList name, [])] }

/-- A text cannot be read as a config. -/
def IsUnreadable (text : String) (path : Option String) (validate : Bool) : Prop :=
  (ofText text path validate).outcome = .error (.config ⟨.unreadable false, path⟩)

variable {written text ending : List Char} {m : Nat} {isPlain : Bool} {v : Value} {name : List Char}
  {path : Option String} {validate : Bool}

theorem readText_keyLine (hwritten : ∀ c ∈ written, Yaml.isAllowed c = true) (hending : ending = [] ∨ ending = ['\n']) :
    Yaml.readText (keyLine written ending) = Yaml.read ⟨written ++ Yaml.OneKey.behindKey ending, none⟩ := by
  have hallowed : (written ++ Yaml.OneKey.behindKey ending).all Yaml.isAllowed = true := by
    rw [List.all_append, Bool.and_eq_true, List.all_eq_true]
    refine ⟨hwritten, ?_⟩
    rcases hending with rfl | rfl <;> decide
  unfold Yaml.readText keyLine Yaml.Source.ofChars
  rw [String.toList_ofList, if_pos hallowed, Except.bind]

theorem ofValue_of_count {entries : Entries} {n : Nat} (h : (Outline.ofEntries entries).count Outline.rootLocation = .ok n) :
    (ofValue (.map entries) path validate).outcome = .ok entries := by
  unfold ofValue
  dsimp only
  rw [Told.outcome_bind, Told.outcome_pure, ok_bind, h]
  cases validate <;> rfl

theorem isName_of_gives (hwritten : ∀ c ∈ written, Yaml.isAllowed c = true) (hending : ending = [] ∨ ending = ['\n'])
    (hbegins : Yaml.OneKey.Begins written m (.scalar text isPlain)) (hm : m < 1024)
    (hv : Yaml.OneKey.Gives text isPlain v) (hname : Fragment.childName? v = some (String.ofList name))
    (hsegment : Fragment.isSegment (String.ofList name) = true) :
    IsName (keyLine written ending) path validate name := by
  have hread : Yaml.readText (keyLine written ending) = .ok (.map [(v, .map [])]) :=
    (readText_keyLine hwritten hending).trans (Yaml.OneKey.read_key hbegins hm hending hv)
  have halone := Fragment.ofEntries_alone hname hsegment
  have hvalue : valueOf (Yaml.Source.ofChars (keyLine written ending).toList) false path = .ok (.map [(v, .map [])]) := by
    unfold Yaml.readText at hread
    rw [valueOf, hread]
  refine ⟨[(v, .map [])], ?_, halone⟩
  unfold ofText ofSource
  rw [Told.outcome_bind, Told.outcome_ofExcept, hvalue, ok_bind]
  exact mapError_eq_ok.mpr (ofValue_of_count (Outline.count_alone _ halone))

theorem isUnreadable_of_far (hwritten : ∀ c ∈ written, Yaml.isAllowed c = true)
    (hending : ending = [] ∨ ending = ['\n']) (hbegins : Yaml.OneKey.Begins written m (.scalar text isPlain))
    (hm : 1024 ≤ m) : IsUnreadable (keyLine written ending) path validate := by
  have hread : Yaml.readText (keyLine written ending) = .error .malformed :=
    (readText_keyLine hwritten hending).trans (Yaml.OneKey.read_far hbegins hm ending)
  have hvalue : valueOf (Yaml.Source.ofChars (keyLine written ending).toList) false path =
      .error (.config ⟨.unreadable false, path⟩) := by
    unfold Yaml.readText at hread
    rw [valueOf, hread]
  unfold IsUnreadable ofText ofSource
  rw [Told.outcome_bind, Told.outcome_ofExcept, hvalue]
  rfl

theorem isAllowed_quote {quote : Char} (hquote : quote = '\'' ∨ quote = '"') : Yaml.isAllowed quote = true := by
  rcases hquote with rfl | rfl <;> decide

/-- A name of digits is itself unless it begins with a zero and all of its digits are below eight: then it is the number in
base eight, written in base ten. Between quotes it is itself in any case. A name that is longer than a key may be is none
either way. -/
theorem numeric_name {digits : List Char} (hne : digits ≠ []) (hdigits : ∀ c ∈ digits, c.isDigit = true)
    (hending : ending = [] ∨ ending = ['\n']) (path : Option String) (validate : Bool) :
    (digits.length ≤ 1024 → IsName (keyLine digits ending) path validate (Yaml.Numeral.name digits)) ∧
    (1024 < digits.length → IsUnreadable (keyLine digits ending) path validate) ∧
    (∀ quote, quote = '\'' ∨ quote = '"' →
      (digits.length ≤ 1022 → IsName (keyLine (quote :: (digits ++ [quote])) ending) path validate digits) ∧
      (1022 < digits.length → IsUnreadable (keyLine (quote :: (digits ++ [quote])) ending) path validate)) ∧
    (Yaml.Numeral.name digits = digits ↔ Yaml.Numeral.isOctal digits = false) := by
  have hallowed : ∀ c ∈ digits, Yaml.isAllowed c = true := fun c hc => Yaml.isAllowed_of_isDigit (hdigits c hc)
  have hplain : Yaml.OneKey.Begins digits (digits.length - 1) (.scalar digits true) := by
    cases digits with
    | nil => exact absurd rfl hne
    | cons c word => exact Yaml.OneKey.begins_plain hdigits
  have hpos : 0 < digits.length := List.length_pos_iff.mpr hne
  refine ⟨fun hlength => ?_, fun hlength => ?_, fun quote hquote => ?_, Yaml.Numeral.name_eq_self⟩
  · obtain ⟨v, hv, hname⟩ := Fragment.exists_gives hne hdigits
    exact isName_of_gives hallowed hending hplain (by omega) hv hname (Fragment.isSegment_name hne hdigits)
  · exact isUnreadable_of_far hallowed hending hplain (by omega)
  · have hwritten : ∀ c ∈ quote :: (digits ++ [quote]), Yaml.isAllowed c = true := by
      rw [← List.cons_append, List.forall_mem_append, List.forall_mem_cons, List.forall_mem_singleton]
      exact ⟨⟨isAllowed_quote hquote, hallowed⟩, isAllowed_quote hquote⟩
    have hquoted := Yaml.OneKey.begins_quoted hquote hdigits
    refine ⟨fun hlength => ?_, fun hlength => isUnreadable_of_far hwritten hending hquoted (by omega)⟩
    exact isName_of_gives hwritten hending hquoted (by omega) ⟨Or.inr rfl, rfl⟩ (Fragment.childName?_digits hdigits)
      (Fragment.isSegment_digits hne hdigits)

theorem numeric_name_year : ['2', '0', '2', '4'] ≠ [] ∧ (∀ c ∈ ['2', '0', '2', '4'], c.isDigit = true) ∧
    IsName (keyLine ['2', '0', '2', '4'] ['\n']) none true ['2', '0', '2', '4'] := by
  have hdigits : ∀ c ∈ ['2', '0', '2', '4'], c.isDigit = true := List.all_eq_true.mp (by decide)
  obtain ⟨hbare, -, -, hself⟩ := numeric_name (by simp) hdigits (Or.inr rfl) none true
  refine ⟨by simp, hdigits, ?_⟩
  have hname := hbare (by decide)
  rwa [hself.mpr (by decide)] at hname

theorem IsName.eq {text : String} {a b : List Char} (ha : IsName text path validate a) (hb : IsName text path validate b) :
    a = b := by
  obtain ⟨entries, hentries, ha⟩ := ha
  obtain ⟨others, hothers, hb⟩ := hb
  obtain rfl := Except.ok.inj (hentries.symm.trans hothers)
  have hfragment := Except.ok.inj (ha.symm.trans hb)
  simp only [Fragment.mk.injEq, List.cons.injEq, Prod.mk.injEq, and_true, true_and] at hfragment
  exact String.ofList_injective hfragment

/-- Without quotes ten with a zero in front is eight. -/
theorem name_is_eight : (∀ c ∈ ['0', '1', '0'], c.isDigit = true) ∧
    IsName (keyLine ['0', '1', '0'] ['\n']) none true ['8'] ∧
    ¬IsName (keyLine ['0', '1', '0'] ['\n']) none true ['0', '1', '0'] ∧
    IsName (keyLine ['\'', '0', '1', '0', '\''] ['\n']) none true ['0', '1', '0'] := by
  have hdigits : ∀ c ∈ ['0', '1', '0'], c.isDigit = true := List.all_eq_true.mp (by decide)
  have hallowed : ∀ c ∈ ['0', '1', '0'], Yaml.isAllowed c = true := List.all_eq_true.mp (by decide)
  have hquoted : ∀ c ∈ ['\'', '0', '1', '0', '\''], Yaml.isAllowed c = true := List.all_eq_true.mp (by decide)
  have height : IsName (keyLine ['0', '1', '0'] ['\n']) none true ['8'] := by
    have hbegins := Yaml.OneKey.begins_plain hdigits
    have hvalue : Yaml.Numeral.name ['0', '1', '0'] = ['8'] := Text.digits_of_lt (by decide)
    obtain ⟨v, hv, hname⟩ := Fragment.exists_gives (by simp) hdigits
    rw [hvalue] at hname
    exact isName_of_gives hallowed (Or.inr rfl) hbegins (by decide) hv hname
      (Fragment.isSegment_digits (by simp) (List.all_eq_true.mp (by decide)))
  have hten : IsName (keyLine ['\'', '0', '1', '0', '\''] ['\n']) none true ['0', '1', '0'] := by
    have hbegins := Yaml.OneKey.begins_quoted (Or.inl rfl) hdigits
    exact isName_of_gives hquoted (Or.inr rfl) hbegins (by decide) ⟨Or.inr rfl, rfl⟩ (Fragment.childName?_digits hdigits)
      (Fragment.isSegment_digits (by simp) hdigits)
  refine ⟨hdigits, height, fun hbare => ?_, hten⟩
  cases height.eq hbare

end Document
end Curfew
