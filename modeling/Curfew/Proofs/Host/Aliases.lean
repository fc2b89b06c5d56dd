import Curfew.Proofs.Host.Subtree
import Curfew.Proofs.Host.Ways
import Mathlib.Data.List.Forall2

/-! Two paths to one place. Names behind one of them lead where the same names lead behind the other, as long as the
limits of the system, on links followed and on the length of a path, are met behind both or behind none. -/

namespace Curfew

/-! ### Computations side by side -/

/-- Two computations come to results that are related, or stop with faults that are. -/
inductive Beside {ε ε' α β : Type} (F : ε → ε' → Prop) (R : α → β → Prop) : Except ε α → Except ε' β → Prop
  | ok {a : α} {b : β} : R a b → Beside F R (.ok a) (.ok b)
  | error {e : ε} {e' : ε'} : F e e' → Beside F R (.error e) (.error e')

namespace Beside
variable {ε ε' α β γ δ : Type} {F : ε → ε' → Prop} {R : α → β → Prop} {S : γ → δ → Prop}
  {x : Except ε α} {y : Except ε' β}

theorem inv (h : Beside F R x y) :
    (∃ a b, x = .ok a ∧ y = .ok b ∧ R a b) ∨ ∃ e e', x = .error e ∧ y = .error e' ∧ F e e' := by
  cases h with
  | ok hab => exact Or.inl ⟨_, _, rfl, rfl, hab⟩
  | error he => exact Or.inr ⟨_, _, rfl, rfl, he⟩

theorem mono {F' : ε → ε' → Prop} {R' : α → β → Prop} (h : Beside F R x y) (hF : ∀ e e', F e e' → F' e e')
    (hR : ∀ a b, R a b → R' a b) : Beside F' R' x y := by
  cases h with
  | ok hab => exact .ok (hR _ _ hab)
  | error he => exact .error (hF _ _ he)

theorem bind {f : α → Except ε γ} {g : β → Except ε' δ} (h : Beside F R x y) (hfg : ∀ a b, R a b → Beside F S (f a) (g b)) :
    Beside F S (x >>= f) (y >>= g) := by
  cases h with
  | ok hab => exact hfg _ _ hab
  | error he => exact .error he

theorem map {f : α → γ} {g : β → δ} (h : Beside F R x y) (hfg : ∀ a b, R a b → S (f a) (g b)) :
    Beside F S (x.map f) (y.map g) := by
  cases h with
  | ok hab => exact .ok (hfg _ _ hab)
  | error he => exact .error he

theorem mapError {δ δ' : Type} (h : Beside F R x y) (f : ε → δ) (g : ε' → δ') :
    Beside (fun _ _ => True) R (x.mapError f) (y.mapError g) := by
  cases h with
  | ok hab => exact .ok hab
  | error => exact .error trivial

theorem mapM {f : α → Except ε γ} {g : β → Except ε' δ} {as : List α} {bs : List β}
    (h : List.Forall₂ (fun a b => Beside F S (f a) (g b)) as bs) : Beside F (List.Forall₂ S) (as.mapM f) (bs.mapM g) := by
  induction h with
  | nil => exact .ok .nil
  | cons hab _ ih =>
    rw [List.mapM_cons, List.mapM_cons]
    exact hab.bind fun c d hcd => ih.bind fun cs ds hcds => .ok (.cons hcd hcds)

theorem forM {f : α → Except ε Unit} {g : β → Except ε' Unit} {as : List α} {bs : List β}
    (h : List.Forall₂ (fun a b => Beside F Eq (f a) (g b)) as bs) : Beside F Eq (as.forM f) (bs.forM g) := by
  induction h with
  | nil => exact .ok rfl
  | cons hab _ ih => exact hab.bind fun _ _ _ => ih

theorem eq_ok_iff {y : Except ε' α} (h : Beside F Eq x y) (a : α) : x = .ok a ↔ y = .ok a := by
  cases h with
  | ok hab => rw [Except.ok.injEq, Except.ok.injEq, hab]
  | error => simp

end Beside

/-- Two faults say the same, be it of different paths. -/
inductive DiskFault.Alike : DiskFault → DiskFault → Prop
  | same (fault : DiskFault) : DiskFault.Alike fault fault
  | system (error : SystemError) (p q : Path) : DiskFault.Alike (.system error p) (.system error q)
  | unavailable (p q : Path) : DiskFault.Alike (.pathUnavailable p) (.pathUnavailable q)

/-! ### Looking -/

namespace Host
variable {h : Host} {p q : Path} {follow : Bool}

/-- Two paths lead to one place, or are absent in one way. -/
def Agree (h : Host) (follow : Bool) (p q : Path) : Prop := Beside DiskFault.Alike Eq (h.resolve p follow) (h.resolve q follow)

namespace Agree

theorem locate (ha : h.Agree follow p q) : Beside DiskFault.Alike Eq (h.locate p follow) (h.locate q follow) := by
  refine Beside.bind ha fun r _ hr => ?_
  subst hr
  cases r with
  | found l => exact .ok rfl
  | missing directory name => exact .error (.system _ p q)

theorem look (ha : h.Agree follow p q) : Beside DiskFault.Alike Eq (h.look p follow) (h.look q follow) := by
  refine ha.locate.bind fun l _ hl => ?_
  subst hl
  cases h.disk.get? l with
  | some e => exact .ok rfl
  | none => exact .error (.system _ p q)

theorem test (ha : h.Agree follow p q) (is : Entry → Bool) :
    Beside DiskFault.Alike Eq (h.test p follow is) (h.test q follow is) := by
  unfold Host.test
  rcases ha.look.inv with ⟨found, _, hp, hq, rfl⟩ | ⟨_, _, hp, hq, hf⟩ <;> rw [hp, hq]
  · exact .ok rfl
  · cases hf with
    | same fault =>
      split
      · exact .ok rfl
      · exact .error (.same _)
      · exact .ok rfl
    | system error => cases error <;> first | exact .ok rfl | exact .error (.system _ _ _)
    | unavailable => exact .ok rfl

theorem leadsToDirectory (ha : h.Agree true p q) : Beside DiskFault.Alike Eq (h.leadsToDirectory p) (h.leadsToDirectory q) :=
  ha.test isDirectoryEntry

theorem isDirectory (ha : ∀ follow, h.Agree follow p q) : Beside DiskFault.Alike Eq (h.isDirectory p) (h.isDirectory q) := by
  refine (ha true).leadsToDirectory.bind fun a _ heq => ?_
  subst heq
  refine ((ha false).test isLinkEntry).bind fun b _ heq => ?_
  subst heq
  exact .ok rfl

theorem children (ha : h.Agree true p q) : Beside DiskFault.Alike Eq (h.children p) (h.children q) := by
  refine ha.look.bind fun found _ heq => ?_
  subst heq
  obtain ⟨l, e⟩ := found
  cases e with
  | directory a children => exact .ok rfl
  | _ => exact .error (.system _ p q)

theorem isThere (ha : h.Agree false p q) : h.isThere p = h.isThere q := by
  unfold Host.isThere
  rcases ha.look.inv with ⟨_, _, hp, hq, -⟩ | ⟨_, _, hp, hq, -⟩ <;> rw [hp, hq]

theorem entersDirectory (ha : h.Agree true p q) : h.entersDirectory p = h.entersDirectory q := by
  unfold Host.entersDirectory
  rcases ha.leadsToDirectory.inv with ⟨b, _, hp, hq, rfl⟩ | ⟨_, _, hp, hq, -⟩ <;> rw [hp, hq]

end Agree

theorem asUnavailable_beside {α β : Type} {R : α → β → Prop} {x : Except DiskFault α} {y : Except DiskFault β}
    (h : Beside DiskFault.Alike R x y) : Beside DiskFault.Alike R (asUnavailable p x) (asUnavailable q y) := by
  cases h with
  | ok hab => exact .ok hab
  | error hf =>
    cases hf with
    | same =>
      rename_i fault
      cases fault with
      | system error r => cases error <;> first | exact .error (.unavailable _ _) | exact .error (.same _)
      | _ => exact .error (.same _)
    | system error => cases error <;> first | exact .error (.unavailable _ _) | exact .error (.system _ _ _)
    | unavailable => exact .error (.unavailable _ _)

end Host

/-! ### Links -/

namespace Resolved
variable {disk : Entry} {follow : Bool} {here : Location} {names : List String}

theorem Stop.of_le {left : Nat} {r : Except SystemError Resolved} (hs : Stop disk follow left here names r)
    (hr : r ≠ .error .tooManyLinks) (left' : Nat) : Stop disk follow left' here names r := by
  cases hs with
  | done => exact .done _
  | lastLink hfollow ht => exact .lastLink hfollow ht
  | free rest ht => exact .free rest ht
  | fault rest ht => exact .fault rest ht
  | noLinkLeft => exact absurd rfl hr

/-- More links to follow make no difference unless they had run out. -/
theorem ofNames_of_le {i j : Nat} (hle : i ≤ j) (hi : ofNames disk follow i here names ≠ .error .tooManyLinks) :
    ofNames disk follow j here names = ofNames disk follow i here names := by
  obtain ⟨n, left, l, more, heq, hway, hstop⟩ := stops disk follow i names here
  exact ofNames_eq_iff.mpr ⟨n, left + (j - i), l, more, by omega, hway, hstop.of_le hi _⟩

end Resolved

/-! ### Behind two paths -/

namespace Host
variable {h h' : Host} {p q : Path} {names : List String} {follow : Bool}

/-- A path leads through more links than may be followed. -/
def OutOfLinks (h : Host) (p : Path) (follow : Bool) : Prop :=
  Resolved.ofNames h.disk follow Resolved.mostLinks (h.start p) p.names = .error .tooManyLinks

/-- Behind two paths names come to the limits of the system, or behind neither. -/
structure SameLimits (h : Host) (p q : Path) (names : List String) : Prop where
  length : Resolved.longestPath < Text.Utf8.size (p.below names).text ↔
    Resolved.longestPath < Text.Utf8.size (q.below names).text
  links : ∀ follow, h.OutOfLinks (p.below names) follow ↔ h.OutOfLinks (q.below names) follow

/-- Where names lead somewhere behind both paths, no limit is met. -/
theorem sameLimits_of_locate (hp : ∀ follow, ∃ l, h.locate (p.below names) follow = .ok l)
    (hq : ∀ follow, ∃ l, h.locate (q.below names) follow = .ok l) : h.SameLimits p q names := by
  have length : ∀ {base : Path}, (∀ follow, ∃ l, h.locate (base.below names) follow = .ok l) →
      ¬Resolved.longestPath < Text.Utf8.size (base.below names).text := fun hall hlong => by
    obtain ⟨l, hl⟩ := hall true
    have hchecked := (locate_eq_ok.mp hl).1
    unfold Resolved.checkText at hchecked
    rw [if_pos hlong] at hchecked
    split at hchecked
    · cases hchecked
    · split at hchecked <;> cases hchecked
  have links : ∀ {base : Path}, (∀ follow, ∃ l, h.locate (base.below names) follow = .ok l) →
      ∀ follow, ¬h.OutOfLinks (base.below names) follow := fun hall follow hout => by
    obtain ⟨l, hl⟩ := hall follow
    cases (locate_eq_ok.mp hl).2.symm.trans hout
  exact ⟨iff_of_false (length hp) (length hq), fun follow => iff_of_false (links hp follow) (links hq follow)⟩

/-- Two paths from the top lead to one place. -/
structure SamePlace (h : Host) (p q : Path) : Prop where
  rooted : p.root ≠ .working ∧ q.root ≠ .working
  place : ∃ l, h.locate p true = .ok l ∧ h.locate q true = .ok l

/-- The characters of a path are slashes and those of its names. -/
theorem forall_mem_text {P : Char → Prop} (hslash : P '/') (hp : p.root ≠ .working) :
    (∀ c ∈ p.text.toList, P c) ↔ ∀ n ∈ p.names, ∀ c ∈ n.toList, P c := by
  have hnames : ∀ names : List String, (∀ c ∈ (String.intercalate "/" names).toList, P c) ↔
      ∀ n ∈ names, ∀ c ∈ n.toList, P c := by
    intro names
    induction names with
    | nil => simp
    | cons name names ih =>
      cases names with
      | nil => simp
      | cons next names =>
        rw [String.intercalate_cons_cons, List.forall_mem_cons (a := name), ← ih]
        simp [or_imp, forall_and, hslash]
  have hroot : ∀ c ∈ Path.Root.chars p.root, P c := by
    cases p.root <;> simp [Path.Root.chars, hslash]
  simp only [Path.text, hp, decide_false, Bool.false_and, Bool.false_eq_true, ↓reduceIte, String.toList_append,
    String.toList_ofList, List.forall_mem_append, hnames]
  exact and_iff_right hroot

theorem forall_mem_text_below {P : Char → Prop} (hslash : P '/') (hp : p.root ≠ .working) (hall : ∀ c ∈ p.text.toList, P c) :
    (∀ c ∈ (p.below names).text.toList, P c) ↔ ∀ n ∈ names, ∀ c ∈ n.toList, P c := by
  have hbelow : (p.below names).root ≠ .working := hp
  rw [forall_mem_text hslash hp] at hall
  rw [forall_mem_text hslash hbelow, Path.below, List.forall_mem_append]
  exact and_iff_right hall

theorem checkText_below (hp : p.root ≠ .working) (hq : q.root ≠ .working) (hasked : Resolved.CanBeAsked p.text)
    (hasked' : Resolved.CanBeAsked q.text)
    (hlength : Resolved.longestPath < Text.Utf8.size (p.below names).text ↔
      Resolved.longestPath < Text.Utf8.size (q.below names).text) :
    Beside DiskFault.Alike Eq (Resolved.checkText (p.below names).text) (Resolved.checkText (q.below names).text) := by
  have hbytes : Resolved.hasBytes (p.below names).text = Resolved.hasBytes (q.below names).text := by
    have hp' := List.all_eq_true.mp hasked.1
    have hq' := List.all_eq_true.mp hasked'.1
    unfold Resolved.hasBytes
    rw [Bool.eq_iff_iff, List.all_eq_true, List.all_eq_true, forall_mem_text_below (by decide) hp hp',
      forall_mem_text_below (by decide) hq hq']
  have hnull : (p.below names).text.toList.contains '\x00' = (q.below names).text.toList.contains '\x00' := by
    have hp' : ∀ c ∈ p.text.toList, c ≠ '\x00' := fun c hc heq => hasked.2 (heq ▸ hc)
    have hq' : ∀ c ∈ q.text.toList, c ≠ '\x00' := fun c hc heq => hasked'.2 (heq ▸ hc)
    have hiff : '\x00' ∉ (p.below names).text.toList ↔ '\x00' ∉ (q.below names).text.toList := by
      have hall : ∀ cs : List Char, '\x00' ∉ cs ↔ ∀ c ∈ cs, c ≠ '\x00' := fun cs =>
        ⟨fun hcs c hc heq => hcs (heq ▸ hc), fun hcs hc => hcs _ hc rfl⟩
      rw [hall, hall, forall_mem_text_below (by decide) hp hp', forall_mem_text_below (by decide) hq hq']
    rw [Bool.eq_iff_iff, List.contains_iff_mem, List.contains_iff_mem]
    exact not_iff_not.mp hiff
  unfold Resolved.checkText
  rw [hbytes, hnull]
  split
  · exact .error (.same _)
  · split
    · exact .error (.same _)
    · by_cases hlong : Resolved.longestPath < Text.Utf8.size (q.below names).text
      · rw [if_pos (hlength.mpr hlong), if_pos hlong]
        exact .error (.system _ _ _)
      · rw [if_neg (mt hlength.mp hlong), if_neg hlong]
        exact .ok rfl

theorem SamePlace.checkText (hs : h.SamePlace p q) (hl : h.SameLimits p q names) :
    Beside DiskFault.Alike Eq (Resolved.checkText (p.below names).text) (Resolved.checkText (q.below names).text) := by
  obtain ⟨⟨hp, hq⟩, l, hlp, hlq⟩ := hs
  exact checkText_below hp hq (Resolved.canBeAsked_of_checkText (locate_eq_ok.mp hlp).1)
    (Resolved.canBeAsked_of_checkText (locate_eq_ok.mp hlq).1) hl.length

theorem SamePlace.agree (hs : h.SamePlace p q) (hl : h.SameLimits p q names) (hon : names ≠ [] ∨ follow = true) :
    h.Agree follow (p.below names) (q.below names) := by
  obtain ⟨l, hlp, hlq⟩ := hs.place
  obtain ⟨-, hfp⟩ := locate_eq_ok.mp hlp
  obtain ⟨-, hfq⟩ := locate_eq_ok.mp hlq
  have hnames : Resolved.ofNames h.disk follow Resolved.mostLinks (h.start p) (p.names ++ names) =
      Resolved.ofNames h.disk follow Resolved.mostLinks (h.start q) (q.names ++ names) := by
    by_cases hne : names = []
    · obtain rfl : follow = true := hon.resolve_left (not_not_intro hne)
      rw [hne, List.append_nil, List.append_nil, hfp, hfq]
    · obtain ⟨i, hi⟩ := Resolved.ofNames_on _ _ _ hfp
      obtain ⟨j, hj⟩ := Resolved.ofNames_on _ _ _ hfq
      have hlinks : Resolved.ofNames h.disk follow i l names = .error .tooManyLinks ↔
          Resolved.ofNames h.disk follow j l names = .error .tooManyLinks := by
        rw [← hi follow names hne, ← hj follow names hne]
        exact hl.links follow
      -- One path may leave fewer links to follow, which tells only where it runs out of them.
      rw [hi follow names hne, hj follow names hne]
      by_cases hout : Resolved.ofNames h.disk follow i l names = .error .tooManyLinks
      · rw [hout, hlinks.mp hout]
      · rcases Nat.le_total i j with hle | hle
        · exact (Resolved.ofNames_of_le hle hout).symm
        · exact Resolved.ofNames_of_le hle (mt hlinks.mpr hout)
  refine (hs.checkText hl).bind fun _ _ _ => ?_
  show Beside DiskFault.Alike Eq ((Resolved.ofNames h.disk follow _ (h.start p) (p.names ++ names)).mapError _)
    ((Resolved.ofNames h.disk follow _ (h.start q) (q.names ++ names)).mapError _)
  rw [hnames]
  cases Resolved.ofNames h.disk follow Resolved.mostLinks (h.start q) (q.names ++ names) with
  | ok r => exact .ok rfl
  | error error => exact .error (.system error _ _)

end Host
end Curfew
