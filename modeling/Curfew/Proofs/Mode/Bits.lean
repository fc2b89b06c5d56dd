import Curfew.Proofs.Mode.Meaning
import Curfew.Proofs.Mode.Removal

/-! What an expression does to single bits. The bits of classes that no clause names stay as they are. Where nothing is
copied and searching does not depend on the mode, every bit is kept, set or cleared, so doing it again changes nothing. -/

namespace Curfew

/-! ### Bits outside a mask -/

namespace Mode

/-- Two modes are alike but for the bits of a mask. -/
def AlikeOutside (mask m n : Mode) : Prop := ∀ k < 12, mask.getLsbD k = false → m.getLsbD k = n.getLsbD k

namespace AlikeOutside
variable {mask more m n k : Mode}

theorem refl (mask m : Mode) : AlikeOutside mask m m := fun _ _ _ => rfl

theorem trans (h₁ : AlikeOutside mask m n) (h₂ : AlikeOutside mask n k) : AlikeOutside mask m k :=
  fun i hi hmask => (h₁ i hi hmask).trans (h₂ i hi hmask)

/-- A greater mask leaves fewer bits outside. -/
theorem mono (h : AlikeOutside mask m n) (hmask : mask.Within more) : AlikeOutside more m n := by
  intro i hi hmore
  refine h i hi ?_
  rw [← hmask, BitVec.getLsbD_and, hmore, Bool.and_false]

theorem and_not_eq (h : AlikeOutside mask m n) : m &&& ~~~mask = n &&& ~~~mask :=
  BitVec.eq_of_getLsbD_eq fun i hi => by
    rw [BitVec.getLsbD_and, BitVec.getLsbD_and, BitVec.getLsbD_not, decide_eq_true hi, Bool.true_and]
    cases hbit : mask.getLsbD i with
    | true => simp
    | false => rw [h i hi hbit]

end AlikeOutside

theorem act_alikeOutside (mode who : Mode) (operator : Operator) (permissions : Mode) :
    AlikeOutside who (mode.act who operator permissions) mode := by
  intro k hk hwho
  rw [getLsbD_act hk, hwho, if_neg Bool.false_ne_true]

end Mode

section
variable (isDirectory : Bool) (who mode : Mode) (operator : Operator)

theorem Gathering.step_alikeOutside (g : Gathering) (p : Permission) :
    Mode.AlikeOutside who (g.step isDirectory who operator p).mode g.mode := by
  cases hp : p.isCopy with
  | false =>
    rw [step_mode hp]
    exact .refl who g.mode
  | true =>
    obtain ⟨source, rfl⟩ : ∃ source, p = .copy source := by
      cases p with
      | copy source => exact ⟨source, rfl⟩
      | _ => cases hp
    refine (Mode.act_alikeOutside _ who .assign _).trans ?_
    split
    · exact .refl who g.mode
    · exact Mode.act_alikeOutside g.mode who operator g.permissions

theorem Action.run_alikeOutside (a : Action) : Mode.AlikeOutside who (a.run isDirectory who mode) mode := by
  have hsteps : ∀ p ∈ a.permissions, ∀ g : Gathering, Mode.AlikeOutside who (g.step isDirectory who a.operator p).mode g.mode :=
    fun p _ g => g.step_alikeOutside isDirectory who a.operator p
  have hgathered := foldl_related (R := fun g g' : Gathering => Mode.AlikeOutside who g.mode g'.mode)
    (fun g => .refl who g.mode) .trans hsteps { mode, permissions := 0, due := a.operator = .assign }
  refine Mode.AlikeOutside.trans ?_ hgathered
  unfold run Gathering.finish
  dsimp only
  split
  · exact Mode.act_alikeOutside _ who a.operator _
  · exact .refl who _

theorem Clause.run_alikeOutside (c : Clause) : Mode.AlikeOutside (whoMask c.who) (c.run isDirectory mode) mode :=
  foldl_related (.refl _) .trans (fun a _ m => a.run_alikeOutside isDirectory (whoMask c.who) m) mode

end

/-! ### The classes that are named -/

/-- The bits of whom a symbol names. -/
def Who.scope : Who → Mode
  | .only .owner => 0o4700
  | .only .group => 0o2070
  | .only .others => 0o1007
  | .all => 0o7777

namespace Mode

theorem within_or_left (m n : Mode) : m.Within (m ||| n) := by
  unfold Within
  grind

theorem within_or_right (m n : Mode) : n.Within (m ||| n) := by
  unfold Within
  grind

/-- All bits of some modes. -/
def union (ms : List Mode) : Mode := ms.foldr (· ||| ·) 0

theorem within_union {m : Mode} {ms : List Mode} (h : m ∈ ms) : m.Within (union ms) := by
  induction ms with
  | nil => cases h
  | cons first rest ih =>
    rcases List.mem_cons.mp h with rfl | h
    · exact within_or_left m (union rest)
    · exact (ih h).trans (within_or_right first (union rest))

end Mode

/-- The bits of all whom a clause names; it names everyone if it names nobody. -/
def Clause.scope (c : Clause) : Mode := if c.who = [] then 0o7777 else Mode.union (c.who.map Who.scope)

/-- The bits of all whom some clauses name. -/
def Clause.scopes (clauses : List Clause) : Mode := Mode.union (clauses.map Clause.scope)

theorem Clause.scope_eq (c : Clause) : c.scope = whoMask c.who := by
  have hmask : ∀ w : Who, w.mask = w.scope := fun w => by rcases w with (_ | _ | _) | _ <;> rfl
  have hjoined : ∀ (ws : List Who) (mask : Mode),
      ws.foldl (fun mask w => mask ||| w.mask) mask = mask ||| Mode.union (ws.map Who.scope) := by
    intro ws
    induction ws with
    | nil => exact fun mask => BitVec.or_zero.symm
    | cons w ws ih =>
      intro mask
      rw [List.foldl_cons, ih, hmask, BitVec.or_assoc]
      rfl
  unfold scope whoMask
  by_cases hwho : c.who = []
  · rw [if_pos hwho, hwho]
    rfl
  · rw [if_neg hwho, if_neg (by simpa using hwho), hjoined]
    exact BitVec.zero_or.symm

theorem Expression.run_alikeOutside (clauses : List Clause) (isDirectory : Bool) (mode : Mode) :
    Mode.AlikeOutside (Clause.scopes clauses) ((symbolic clauses).run isDirectory mode) mode := by
  refine foldl_related (R := Mode.AlikeOutside (Clause.scopes clauses)) (.refl _) .trans (fun c hc m => ?_) mode
  refine (c.run_alikeOutside isDirectory m).mono ?_
  rw [← c.scope_eq]
  exact Mode.within_union (List.mem_map_of_mem hc)

namespace Mode

/-- A text that spells clauses compiles, and only bits of those whom the clauses name may change, whatever is copied
from whom. -/
theorem kept_outside_scopes {text : String} {clauses : List Clause}
    (h : (Expression.symbolic clauses).Spells (Text.trim text.toList)) (current : Int) (isDirectory : Bool) :
    ∃ m, compile text (ofInt current) isDirectory = .ok m ∧
      m &&& ~~~Clause.scopes clauses = ofInt current &&& ~~~Clause.scopes clauses :=
  ⟨_, compile_eq_ok.mpr ⟨_, read_eq_ok.mpr h, rfl⟩,
    (Expression.run_alikeOutside clauses isDirectory (ofInt current)).and_not_eq⟩

/-- The group may do all and is copied to the owner, and the others' bits change; those of the group stay. -/
theorem kept_outside_scopes_group : ∃ clauses, (Expression.symbolic clauses).Spells (Text.trim "u=g+X,o+st ".toList) ∧
    Clause.scopes clauses = 0o5707 ∧
    ∃ m, compile "u=g+X,o+st " (ofInt 0o2070) false = .ok m ∧ m &&& 0o2070 = 0o2070 := by
  have hread : read "u=g+X,o+st " = .ok (.symbolic [⟨[.only .owner], [⟨.assign, [.copy .group]⟩, ⟨.add, [.search]⟩]⟩,
      ⟨[.only .others], [⟨.add, [.setId, .sticky]⟩]⟩]) := by decide
  have hspells := read_eq_ok.mp hread
  obtain ⟨m, hm, hkept⟩ := kept_outside_scopes hspells 0o2070 false
  exact ⟨_, hspells, by decide, m, hm, hkept⟩

/-! ### Changes that do not depend on the mode -/

/-- A change keeps some bits of a mode, sets some and clears the rest, whatever the mode is. -/
def Overlays (f : Mode → Mode) : Prop := ∃ keep set, ∀ m, f m = m &&& keep ||| set

namespace Overlays
variable {f g : Mode → Mode}

theorem keep : Overlays fun m => m := ⟨.allOnes 12, 0#12, fun m => by rw [BitVec.and_allOnes, BitVec.or_zero]⟩

theorem assign (m : Mode) : Overlays fun _ => m := ⟨0, m, fun n => by simp⟩

theorem act (who permissions : Mode) (operator : Operator) : Overlays fun m => m.act who operator permissions := by
  cases operator with
  | assign => exact ⟨~~~who, who &&& permissions, fun m => rfl⟩
  | add => exact ⟨.allOnes 12, who &&& permissions, fun m => by rw [BitVec.and_allOnes]; rfl⟩
  | remove => exact ⟨~~~(who &&& permissions), 0#12, fun m => by rw [BitVec.or_zero]; rfl⟩

theorem comp (hg : Overlays g) (hf : Overlays f) : Overlays fun m => g (f m) := by
  obtain ⟨keep, set, hf⟩ := hf
  obtain ⟨keep', set', hg⟩ := hg
  refine ⟨keep &&& keep', set &&& keep' ||| set', fun m => ?_⟩
  show g (f m) = _
  rw [hg, hf, BitVec.and_or_distrib_right, BitVec.and_assoc, BitVec.or_assoc]

theorem foldl {α : Type} {f : Mode → α → Mode} {as : List α} (h : ∀ a ∈ as, Overlays fun m => f m a) :
    Overlays fun m => as.foldl f m := by
  induction as with
  | nil => exact keep
  | cons a as ih =>
    obtain ⟨ha, has⟩ := List.forall_mem_cons.mp h
    exact (ih has).comp ha

/-- Bits that were kept, set or cleared are so again. -/
theorem twice (hf : Overlays f) (m : Mode) : f (f m) = f m := by
  obtain ⟨keep, set, hf⟩ := hf
  -- What was set stays set, kept or not.
  have hset : set &&& keep ||| set = set := by grind
  rw [hf, hf m, BitVec.and_or_distrib_right, BitVec.and_assoc, BitVec.and_self, BitVec.or_assoc, hset]

end Overlays

end Mode

/-! ### Expressions without copies -/

/-- A permission gives the same bits whatever the running mode is. -/
def Permission.IsFixed (isDirectory : Bool) (p : Permission) : Prop := p.isCopy = false ∧ (isDirectory = true ∨ p ≠ .search)

namespace Gathering
variable {isDirectory : Bool} (who : Mode) (operator : Operator)

theorem step_fixed {p : Permission} (hp : p.IsFixed isDirectory) (permissions : Mode) : ∃ more, ∀ mode due,
    step isDirectory who operator { mode, permissions, due } p = { mode, permissions := more, due } := by
  obtain ⟨hcopy, hsearch⟩ := hp
  cases p with
  | copy source => cases hcopy
  | search =>
    have hdirectory : isDirectory = true := hsearch.resolve_right fun h => h rfl
    refine ⟨permissions ||| Mode.anyExecute, fun mode due => ?_⟩
    simp only [step, Mode.isSearchable, hdirectory, Bool.true_or, ↓reduceIte]
  | _ => exact ⟨permissions ||| Permission.mask _, fun mode due => rfl⟩

theorem foldl_step_fixed {ps : List Permission} (hps : ∀ p ∈ ps, p.IsFixed isDirectory) : ∀ permissions, ∃ more,
    ∀ mode due, ps.foldl (step isDirectory who operator) { mode, permissions, due } = { mode, permissions := more, due } := by
  induction ps with
  | nil => exact fun permissions => ⟨permissions, fun _ _ => rfl⟩
  | cons p ps ih =>
    intro permissions
    obtain ⟨hp, hrest⟩ := List.forall_mem_cons.mp hps
    obtain ⟨first, hfirst⟩ := step_fixed who operator hp permissions
    obtain ⟨more, hmore⟩ := ih hrest first
    exact ⟨more, fun mode due => by rw [List.foldl_cons, hfirst, hmore]⟩

end Gathering

theorem Action.run_overlays {a : Action} {isDirectory : Bool} (ha : ∀ p ∈ a.permissions, p.IsFixed isDirectory) (who : Mode) :
    Mode.Overlays fun m => a.run isDirectory who m := by
  obtain ⟨more, hmore⟩ := Gathering.foldl_step_fixed who a.operator ha 0
  unfold run Gathering.finish
  simp only [hmore]
  split
  · exact .act who more a.operator
  · exact .keep

/-- The permissions of all actions of an expression. -/
def Expression.permissions : Expression → List Permission
  | .octal _ => []
  | .symbolic clauses => clauses.flatMap fun c => c.actions.flatMap Action.permissions

theorem Expression.run_overlays {e : Expression} {isDirectory : Bool} (he : ∀ p ∈ e.permissions, p.IsFixed isDirectory) :
    Mode.Overlays fun m => e.run isDirectory m := by
  cases e with
  | octal result => exact .assign result
  | symbolic clauses =>
    refine .foldl fun c hc => .foldl fun a ha => Action.run_overlays (fun p hp => he p ?_) (whoMask c.who)
    exact List.mem_flatMap.mpr ⟨c, hc, List.mem_flatMap.mpr ⟨a, ha, hp⟩⟩

/-- Where nothing is copied, and a search is for a directory if there is one, a text keeps, sets or clears each bit
whatever the mode is, and compiled for the mode that it gave it gives that mode again. -/
theorem Mode.compile_twice {text : String} {e : Expression} (h : e.Spells (Text.trim text.toList))
    {isDirectory : Bool} (hcopy : ∀ source, .copy source ∉ e.permissions)
    (hsearch : isDirectory = true ∨ .search ∉ e.permissions) :
    (∃ keep set : Mode, ∀ m, compile text m isDirectory = .ok (m &&& keep ||| set)) ∧
      ∀ current : Int, ∃ m, compile text (ofInt current) isDirectory = .ok m ∧ compile text m isDirectory = .ok m := by
  have hfixed : ∀ p ∈ e.permissions, p.IsFixed isDirectory := by
    refine fun p hp => ⟨?_, hsearch.imp_right fun hnone => ?_⟩
    · cases p with
      | copy source => exact absurd hp (hcopy source)
      | _ => rfl
    · rintro rfl
      exact hnone hp
  have hrun : ∀ m, compile text m isDirectory = .ok (e.run isDirectory m) := fun m =>
    compile_eq_ok.mpr ⟨e, read_eq_ok.mpr h, rfl⟩
  have hoverlays := Expression.run_overlays hfixed
  constructor
  · obtain ⟨keep, set, hbits⟩ := hoverlays
    exact ⟨keep, set, fun m => (hrun m).trans (congrArg Except.ok (hbits m))⟩
  · exact fun current => ⟨_, hrun _, by rw [hrun, hoverlays.twice]⟩

theorem Mode.compile_twice_directory : ∃ e : Expression, e.Spells (Text.trim "a+X,u=rwx-x+s,go-w,+t".toList) ∧
    (∀ source, .copy source ∉ e.permissions) ∧
    (∃ keep set : Mode, ∀ m, compile "a+X,u=rwx-x+s,go-w,+t" m true = .ok (m &&& keep ||| set)) ∧
    ∀ current : Int, ∃ m, compile "a+X,u=rwx-x+s,go-w,+t" (ofInt current) true = .ok m ∧
      compile "a+X,u=rwx-x+s,go-w,+t" m true = .ok m := by
  obtain ⟨e, he, hcopy⟩ : ∃ e, read "a+X,u=rwx-x+s,go-w,+t" = .ok e ∧ ∀ source, .copy source ∉ e.permissions :=
    ⟨.symbolic [⟨[.all], [⟨.add, [.search]⟩]⟩,
      ⟨[.only .owner], [⟨.assign, [.read, .write, .execute]⟩, ⟨.remove, [.execute]⟩, ⟨.add, [.setId]⟩]⟩,
      ⟨[.only .group, .only .others], [⟨.remove, [.write]⟩]⟩, ⟨[], [⟨.add, [.sticky]⟩]⟩], by decide, by decide⟩
  have hspells := read_eq_ok.mp he
  exact ⟨e, hspells, hcopy, compile_twice hspells hcopy (Or.inl rfl)⟩

/-- For a file, a search looks at what the first time left. -/
example : Mode.compile "a+X,u+x" 0o644 false = .ok 0o744 ∧ Mode.compile "a+X,u+x" 0o744 false = .ok 0o755 := by decide

end Curfew
