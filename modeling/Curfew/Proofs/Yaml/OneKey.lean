import Curfew.Proofs.Faults
import Curfew.Proofs.Text.Digits
import Curfew.Yaml.Reading

/-! A document of one key. Digits, bare or between quotes, are one token; the colon behind them makes them the key of a
mapping, unless the line is so long that no key can be on it any more. -/

namespace Curfew

section
variable {σ ε α β : Type} {x : StateT σ (Except ε) α} {f : α → StateT σ (Except ε) β} {s t : σ}

theorem run_bind_ok {a : α} (h : x.run s = .ok (a, t)) : (x >>= f).run s = (f a).run t := by
  rw [StateT.run_bind, h]
  rfl

theorem run_bind_error {fault : ε} (h : x.run s = .error fault) : (x >>= f).run s = .error fault := by
  rw [StateT.run_bind, h]
  rfl

end

namespace Yaml

/-! ### Digits -/

section
variable {c : Char}

theorem isGap_of_isDigit (hc : c.isDigit = true) : isGap c = false :=
  Text.forall_isDigit (P := fun c => isGap c = false) (by decide) hc

theorem isBreak_of_isDigit (hc : c.isDigit = true) : isBreak c = false :=
  Text.forall_isDigit (P := fun c => isBreak c = false) (by decide) hc

theorem isAllowed_of_isDigit (hc : c.isDigit = true) : isAllowed c = true :=
  Text.forall_isDigit (P := fun c => isAllowed c = true) (by decide) hc

theorem beq_of_isDigit {d : Char} (hc : c.isDigit = true) (hd : d.isDigit = false) : (c == d) = false := by
  rw [beq_eq_false_iff_ne]
  rintro rfl
  rw [hc] at hd
  cases hd

theorem Cursor.forward_digit (hc : c.isDigit = true) (rest : List Char) (index line column : Nat) :
    Cursor.forward ⟨c :: rest, index, line, column⟩ = ⟨rest, index + 1, line, column + 1⟩ := by
  have hreturn : (c == '\r') = false := beq_of_isDigit hc (by decide)
  have hmark : (c == byteOrderMark) = false := beq_of_isDigit hc (by decide)
  simp [Cursor.forward, Cursor.endsLine, isBreak_of_isDigit hc, hreturn, hmark]

end

variable {word : List Char}

theorem Cursor.advance_digits (hw : ∀ c ∈ word, c.isDigit = true) (rest : List Char) : ∀ index line column : Nat,
    Cursor.advance word.length ⟨word ++ rest, index, line, column⟩ =
      ⟨rest, index + word.length, line, column + word.length⟩ := by
  induction word with
  | nil => exact fun _ _ _ => rfl
  | cons c word ih =>
    intro index line column
    obtain ⟨hc, hw⟩ := List.forall_mem_cons.mp hw
    rw [List.length_cons, List.cons_append, Cursor.advance, Cursor.forward_digit hc, ih hw]
    simp only [Cursor.mk.injEq, true_and]
    omega

theorem plainRun_digits (hw : ∀ c ∈ word, c.isDigit = true) (rest : List Char) :
    plainRun false (word ++ ':' :: ' ' :: rest) = word := by
  induction word with
  | nil => rfl
  | cons c word ih =>
    obtain ⟨hc, hw⟩ := List.forall_mem_cons.mp hw
    have hcolon : (c == ':') = false := beq_of_isDigit hc (by decide)
    rw [List.cons_append, plainRun]
    simp [isGap_of_isDigit hc, hcolon, ih hw]

theorem quotedText_digits {quote : Char} (hquote : quote = '\'' ∨ quote = '"') (hw : ∀ c ∈ word, c.isDigit = true)
    (limit fuel : Nat) (rest : List Char) : ∀ index column : Nat,
    quotedText quote limit (fuel + word.length + 1) ⟨word ++ quote :: ':' :: rest, index, 0, column⟩ =
      .ok (word, ⟨':' :: rest, index + word.length + 1, 0, column + word.length + 1⟩) := by
  induction word with
  | nil =>
    intro index column
    rcases hquote with rfl | rfl <;> rfl
  | cons c word ih =>
    intro index column
    obtain ⟨hc, hw⟩ := List.forall_mem_cons.mp hw
    have hother : (c == quote) = false := by
      rcases hquote with rfl | rfl <;> exact beq_of_isDigit hc (by decide)
    have hback : (c == '\\') = false := beq_of_isDigit hc (by decide)
    have hrest := ih hw (index + 1) (column + 1)
    rw [List.length_cons, ← Nat.add_assoc, List.cons_append, quotedText]
    simp only [hother, hback, isGap_of_isDigit hc, Bool.false_and, Bool.false_eq_true, ↓reduceIte, Cursor.forward_digit hc,
      hrest]
    simp only [List.singleton_append, Except.ok.injEq, Prod.mk.injEq, Cursor.mk.injEq, true_and]
    omega

theorem plainText_digits (hne : word ≠ []) (hw : ∀ c ∈ word, c.isDigit = true) (floor limit fuel : Nat)
    (rest : List Char) (index column : Nat) :
    plainText false floor limit (fuel + 1) [] false ⟨word ++ ':' :: ' ' :: rest, index, 0, column⟩ =
      (word, false, ⟨':' :: ' ' :: rest, index + word.length, 0, column + word.length⟩) := by
  have hhash : (Cursor.peek ⟨word ++ ':' :: ' ' :: rest, index, 0, column⟩ == '#') = false := by
    cases word with
    | nil => exact absurd rfl hne
    | cons c word => exact beq_of_isDigit (List.forall_mem_cons.mp hw).1 (by decide)
  have hgap : plainGap limit ⟨':' :: ' ' :: rest, index + word.length, 0, column + word.length⟩ =
      ([], false, ⟨':' :: ' ' :: rest, index + word.length, 0, column + word.length⟩) := rfl
  rw [plainText]
  simp only [plainRun_digits hw, Cursor.advance_digits hw, hgap, hhash, List.isEmpty_eq_false_iff.mpr hne, Bool.or_false,
    Bool.false_eq_true, ↓reduceIte]
  rfl

/-! ### The first token -/

namespace OneKey

section
variable (ending : List Char) (m : Nat)

/-- What stands behind the key: a colon, and brackets with nothing between them. -/
def behindKey : List Char := ':' :: ' ' :: '\x7b' :: '\x7d' :: ending

/-- A text from its start. -/
def atStart (rest : List Char) (extra : Nat) : Progress :=
  { cursor := ⟨rest, 0, 0, 0⟩, queue := [], taken := 0, columns := [], allowsKey := true,
    candidate := none, outer := [], finished := false, cut := none, limit := extra + 7 }

/-- The first token is noted as one that may begin a key. -/
def noted (rest : List Char) (extra : Nat) : Progress :=
  { atStart rest extra with candidate := some ⟨0, false, 0, 0, 0⟩ }

/-- A token of one character more than `m` was read, and the colon is next. -/
def atColon (t : Token) : Progress :=
  { cursor := ⟨behindKey ending, m + 1, 0, m + 1⟩, queue := [t], taken := 0, columns := [], allowsKey := false,
    candidate := some ⟨0, false, 0, 0, 0⟩, outer := [], finished := false, cut := none, limit := m + ending.length + 7 }

/-- The token cannot be a key any more. -/
def tooFar (queue : List Token) (taken : Nat) : Progress :=
  { cursor := ⟨behindKey ending, m + 1, 0, m + 1⟩, queue, taken, columns := [], allowsKey := false,
    candidate := none, outer := [], finished := false, cut := none, limit := m + ending.length + 7 }

/-- The colon was read, and the token is a key. -/
def behindColon (queue : List Token) (taken : Nat) : Progress :=
  { cursor := ⟨' ' :: '\x7b' :: '\x7d' :: ending, m + 2, 0, m + 2⟩, queue, taken, columns := [0], allowsKey := false,
    candidate := none, outer := [], finished := false, cut := none, limit := m + ending.length + 7 }

def inBrackets : Progress :=
  { cursor := ⟨'\x7d' :: ending, m + 4, 0, m + 4⟩, queue := [.flowMapping], taken := 4, columns := [0],
    allowsKey := true, candidate := none, outer := [none], finished := false, cut := none, limit := m + ending.length + 7 }

def behindBrackets : Progress :=
  { cursor := ⟨ending, m + 5, 0, m + 5⟩, queue := [], taken := 6, columns := [0], allowsKey := false,
    candidate := none, outer := [], finished := false, cut := none, limit := m + ending.length + 7 }

end

variable {ending : List Char} {m : Nat} {t : Token}

/-- Characters in front of the colon are one token. -/
structure Begins (written : List Char) (m : Nat) (t : Token) : Prop where
  length : written.length = m + 1
  token : ∀ ending, Reading.token.run (atStart (written ++ behindKey ending) (m + ending.length)) =
    .ok ((), atColon ending m t)

theorem isDigit_cases {c : Char} (hc : c.isDigit = true) :
    c = '0' ∨ c = '1' ∨ c = '2' ∨ c = '3' ∨ c = '4' ∨ c = '5' ∨ c = '6' ∨ c = '7' ∨ c = '8' ∨ c = '9' :=
  Text.forall_isDigit (P := fun c =>
    c = '0' ∨ c = '1' ∨ c = '2' ∨ c = '3' ∨ c = '4' ∨ c = '5' ∨ c = '6' ∨ c = '7' ∨ c = '8' ∨ c = '9')
    (by decide) hc

theorem token_digit {c : Char} (hc : c.isDigit = true) (rest : List Char) (extra : Nat) :
    Reading.token.run (atStart (c :: rest) extra) = (Reading.plain (extra + 7)).run (atStart (c :: rest) extra) := by
  have hmark : Reading.skipByteOrderMark.run (atStart (c :: rest) extra) = .ok ((), atStart (c :: rest) extra) := by
    rcases isDigit_cases hc with rfl | rfl | rfl | rfl | rfl | rfl | rfl | rfl | rfl | rfl <;> rfl
  have hskip : (Reading.skipGap (extra + 7)).run (atStart (c :: rest) extra) = .ok ((), atStart (c :: rest) extra) := by
    rcases isDigit_cases hc with rfl | rfl | rfl | rfl | rfl | rfl | rfl | rfl | rfl | rfl <;> rfl
  unfold Reading.token
  refine (run_bind_ok rfl).trans ?_
  refine (run_bind_ok hmark).trans ?_
  refine (run_bind_ok hskip).trans ?_
  refine (run_bind_ok (t := atStart (c :: rest) extra) rfl).trans ?_
  refine (run_bind_ok rfl).trans ?_
  refine (run_bind_ok (t := atStart (c :: rest) extra) rfl).trans ?_
  refine (run_bind_ok rfl).trans ?_
  generalize Reading.plain = plain
  rcases isDigit_cases hc with rfl | rfl | rfl | rfl | rfl | rfl | rfl | rfl | rfl | rfl <;> rfl

theorem token_quote {quote : Char} (hquote : quote = '\'' ∨ quote = '"') (rest : List Char) (extra : Nat) :
    Reading.token.run (atStart (quote :: rest) extra) =
      (Reading.quoted quote (extra + 7)).run (atStart (quote :: rest) extra) := by
  unfold Reading.token
  generalize Reading.quoted = quoted
  rcases hquote with rfl | rfl <;> rfl

theorem plain_run {p q : Progress} {limit : Nat} {text : List Char} {ended : Bool} {cursor : Cursor}
    (hnote : Reading.noteCandidate.run p = .ok ((), q))
    (hplain : plainText q.inFlow q.floor limit limit [] false q.cursor = (text, ended, cursor)) :
    (Reading.plain limit).run p = .ok ((), { q with cursor, allowsKey := ended }.push (.scalar text true)) := by
  unfold Reading.plain
  refine (run_bind_ok hnote).trans ?_
  refine (run_bind_ok rfl).trans ?_
  rw [hplain]
  rfl

theorem take_run {α : Type} {f : Cursor → Except Fault (α × Cursor)} {p : Progress} {a : α} {cursor : Cursor}
    (h : f p.cursor = .ok (a, cursor)) : (Reading.take f).run p = .ok (a, { p with cursor }) := by
  unfold Reading.take
  refine (run_bind_ok rfl).trans ?_
  rw [h]
  rfl

theorem quoted_run {p q : Progress} {quote : Char} {limit : Nat} {text : List Char} {cursor : Cursor}
    (hnote : Reading.noteCandidate.run p = .ok ((), q))
    (hquoted : quotedText quote limit limit q.cursor.forward = .ok (text, cursor)) :
    (Reading.quoted quote limit).run p = .ok ((), { q with cursor, allowsKey := false }.push (.scalar text false)) := by
  unfold Reading.quoted Reading.content
  refine (run_bind_ok hnote).trans ?_
  refine (run_bind_ok rfl).trans ?_
  refine (run_bind_ok (a := .scalar text false) (t := { q with cursor, allowsKey := false }) (take_run ?_)).trans rfl
  exact bind_eq_ok.mpr ⟨_, hquoted, rfl⟩

/-- Bare digits are a plain scalar. -/
theorem begins_plain {c : Char} (hw : ∀ d ∈ c :: word, d.isDigit = true) :
    Begins (c :: word) word.length (.scalar (c :: word) true) := by
  refine ⟨rfl, fun ending => ?_⟩
  obtain ⟨hc, -⟩ := List.forall_mem_cons.mp hw
  have hplain := plainText_digits (by simp) hw 0 (word.length + ending.length + 7) (word.length + ending.length + 6)
    ('\x7b' :: '\x7d' :: ending) 0 0
  refine (token_digit hc _ _).trans ?_
  refine (plain_run (q := noted (c :: word ++ behindKey ending) (word.length + ending.length)) rfl hplain).trans ?_
  simp [Progress.push, atColon, atStart, noted, behindKey]

/-- Digits between quotes are a scalar that is not plain. -/
theorem begins_quoted {quote : Char} (hquote : quote = '\'' ∨ quote = '"') (hw : ∀ d ∈ word, d.isDigit = true) :
    Begins (quote :: (word ++ [quote])) (word.length + 1) (.scalar word false) := by
  refine ⟨by simp, fun ending => ?_⟩
  rw [List.cons_append, List.append_assoc, List.singleton_append]
  let rest := word ++ quote :: behindKey ending
  have hforward : Cursor.forward ⟨quote :: rest, 0, 0, 0⟩ = ⟨rest, 1, 0, 1⟩ := by
    rcases hquote with rfl | rfl <;> rfl
  have hquoted : quotedText quote (word.length + 1 + ending.length + 7) (word.length + 1 + ending.length + 7)
      (Cursor.forward ⟨quote :: rest, 0, 0, 0⟩) =
        .ok (word, ⟨behindKey ending, 1 + word.length + 1, 0, 1 + word.length + 1⟩) := by
    have hfuel : word.length + 1 + ending.length + 7 = ending.length + 7 + word.length + 1 := by omega
    rw [hforward, hfuel]
    exact quotedText_digits hquote hw _ _ _ 1 1
  refine (token_quote hquote _ _).trans ?_
  refine (quoted_run (q := noted (quote :: rest) (word.length + 1 + ending.length)) rfl hquoted).trans ?_
  simp [Progress.push, atColon, atStart, noted, behindKey]
  omega

/-! ### The colon -/

theorem refreshAll_fresh (hm : m < 1024) :
    Reading.refreshAll.run (atColon ending m t) = .ok ((), atColon ending m t) := by
  have hfresh : Progress.isStale ⟨behindKey ending, m + 1, 0, m + 1⟩ ⟨0, false, 0, 0, 0⟩ = false := by
    simp [Progress.isStale, Progress.longestKey]
    omega
  simp [Reading.refreshAll, atColon, Reading.refresh, hfresh]
  rfl

theorem refreshAll_stale (hm : 1024 ≤ m) :
    Reading.refreshAll.run (atColon ending m t) = .ok ((), tooFar ending m [t] 0) := by
  have hstale : Progress.isStale ⟨behindKey ending, m + 1, 0, m + 1⟩ ⟨0, false, 0, 0, 0⟩ = true := by
    simp [Progress.isStale, Progress.longestKey]
    omega
  simp [Reading.refreshAll, atColon, Reading.refresh, hstale]
  rfl

theorem token_colon (hm : m < 1024) :
    Reading.token.run (atColon ending m t) = .ok ((), behindColon ending m [.blockMapping, .key, t, .value] 0) := by
  refine (run_bind_ok (t := atColon ending m t) rfl).trans ?_
  refine (run_bind_ok (t := atColon ending m t) rfl).trans ?_
  refine (run_bind_ok (t := atColon ending m t) rfl).trans ?_
  refine (run_bind_ok (refreshAll_fresh hm)).trans ?_
  rfl

/-- A colon is refused where no key may begin. -/
theorem token_refused : Reading.token.run (tooFar ending m [] 1) = .error .malformed := rfl

theorem fetch_run {p : Progress} (h : p.cut = none) : Reading.fetch.run p = Reading.token.run p := by
  unfold Reading.fetch
  refine (run_bind_ok rfl).trans ?_
  rw [h]

theorem settle_more {p q r : Progress} {n : Nat} (hmore : Reading.needsMore.run p = .ok (true, q)) (hcut : q.cut = none)
    (htoken : Reading.token.run q = .ok ((), r)) : (Reading.settle (n + 1)).run p = (Reading.settle n).run r := by
  rw [Reading.settle]
  refine (run_bind_ok hmore).trans ?_
  exact run_bind_ok ((fetch_run hcut).trans htoken)

theorem settle_done {p q : Progress} {n : Nat} (hdone : Reading.needsMore.run p = .ok (false, q)) :
    (Reading.settle (n + 1)).run p = .ok ((), q) := by
  rw [Reading.settle]
  exact run_bind_ok hdone

theorem needsMore_of_queue {p q : Progress} (hfinished : p.finished = false) (hqueue : p.queue.isEmpty = false)
    (hrefresh : Reading.refreshAll.run p = .ok ((), q)) : Reading.needsMore.run p = .ok (q.awaitsKey, q) := by
  unfold Reading.needsMore
  refine (run_bind_ok rfl).trans ?_
  rw [hfinished, hqueue]
  exact run_bind_ok hrefresh

theorem peek_run {p q : Progress} {queue : List Token} (hsettle : (Reading.settle p.limit).run p = .ok ((), q))
    (hqueue : q.queue = t :: queue) : Reading.peek.run p = .ok (t, q) := by
  unfold Reading.peek
  refine (run_bind_ok rfl).trans ?_
  refine (run_bind_ok hsettle).trans ?_
  refine (run_bind_ok rfl).trans ?_
  rw [hqueue]
  rfl

variable {written : List Char}

theorem peek_key (h : Begins written m t) (hm : m < 1024) (ending : List Char) :
    Reading.peek.run (atStart (written ++ behindKey ending) (m + ending.length)) =
      .ok (.blockMapping, behindColon ending m [.blockMapping, .key, t, .value] 0) := by
  refine peek_run ?_ rfl
  refine (settle_more (q := atStart (written ++ behindKey ending) (m + ending.length)) rfl rfl (h.token ending)).trans ?_
  refine (settle_more (needsMore_of_queue rfl rfl (refreshAll_fresh hm)) rfl (token_colon hm)).trans ?_
  exact settle_done rfl

theorem peek_far (h : Begins written m t) (hm : 1024 ≤ m) (ending : List Char) :
    Reading.peek.run (atStart (written ++ behindKey ending) (m + ending.length)) = .ok (t, tooFar ending m [t] 0) := by
  refine peek_run ?_ rfl
  refine (settle_more (q := atStart (written ++ behindKey ending) (m + ending.length)) rfl rfl (h.token ending)).trans ?_
  exact settle_done (needsMore_of_queue rfl rfl (refreshAll_stale hm))

theorem peek_refused : Reading.peek.run (tooFar ending m [] 1) = .error .malformed := by
  have hsettle : (Reading.settle (m + ending.length + 7)).run (tooFar ending m [] 1) = .error .malformed := by
    rw [Reading.settle]
    refine (run_bind_ok (a := true) (t := tooFar ending m [] 1) rfl).trans ?_
    exact run_bind_error ((fetch_run rfl).trans token_refused)
  unfold Reading.peek
  refine (run_bind_ok rfl).trans ?_
  exact run_bind_error hsettle

end OneKey

/-! ### Rules -/

/-- A token is the next one for sure. -/
def Shows (t : Token) (p : Progress) : Prop := Reading.peek.run p = .ok (t, p)

namespace Composing
variable {t : Token} {o q r : Outlook} {text : List Char} {isPlain : Bool} {ps : List (NodeId × NodeId)}

/-- What is left when the next token is taken. -/
def dropped (o : Outlook) : Outlook :=
  { o with progress := { o.progress with queue := o.progress.queue.tail, taken := o.progress.taken + 1 } }

theorem drop_run (o : Outlook) : drop.run o = .ok ((), dropped o) := rfl

theorem peek_reading {p : Progress} (h : Reading.peek.run o.progress = .ok (t, p)) :
    peek.run o = .ok (t, { o with progress := p }) := by
  refine (run_bind_ok rfl).trans ?_
  rw [h]
  rfl

theorem peek_reading_error {fault : Fault} (h : Reading.peek.run o.progress = .error fault) : peek.run o = .error fault := by
  refine (run_bind_ok rfl).trans ?_
  rw [h]
  rfl

theorem peek_shown (h : Shows t o.progress) : peek.run o = .ok (t, o) := peek_reading h

theorem accept_other {other : Token} (h : peek.run o = .ok (other, q)) (hne : other ≠ t) :
    (accept t).run o = .ok (false, q) := by
  refine (run_bind_ok h).trans ?_
  rw [if_neg hne]
  rfl

theorem properties_none (h : Shows t o.progress) (hanchor : ∀ name, t ≠ .anchor name) (htag : ∀ word, t ≠ .tag word) :
    properties.run o = .ok ((none, none), o) := by
  have hname : anchor?.run o = .ok (none, o) := by
    refine (run_bind_ok (peek_shown h)).trans ?_
    cases t with
    | anchor name => exact absurd rfl (hanchor name)
    | _ => rfl
  have hword : tag?.run o = .ok (none, o) := by
    refine (run_bind_ok (peek_shown h)).trans ?_
    cases t with
    | tag word => exact absurd rfl (htag word)
    | _ => rfl
  refine (run_bind_ok hname).trans ?_
  refine (run_bind_ok hword).trans ?_
  rfl

theorem node_scalar (hpeek : peek.run o = .ok (.scalar text isPlain, q)) (hshows : Shows (.scalar text isPlain) q.progress)
    (place : Place) (fuel : Nat) : (node place (fuel + 1)).run o =
      .ok (q.graph.size, { dropped q with graph := q.graph.push ⟨scalarTag text isPlain none, .scalar text⟩ }) := by
  rw [node]
  refine (run_bind_ok hpeek).trans ?_
  refine (run_bind_ok (properties_none hshows (by simp) (by simp))).trans ?_
  refine (run_bind_ok (peek_shown hshows)).trans ?_
  cases place <;> rfl

/-- A mapping is added before its pairs are read, and gets them then. -/
theorem mapping_run {pairs : Composing (List (NodeId × NodeId))}
    (h : pairs.run { o with graph := o.graph.push ⟨.map, .mapping []⟩ } = .ok (ps, q)) :
    (mapping none .map pairs).run o =
      .ok (o.graph.size, { q with graph := q.graph.setContent o.graph.size (.mapping ps) }) := by
  have hadd : (addNamed none .map (.mapping [])).run o =
      .ok (o.graph.size, { o with graph := o.graph.push ⟨.map, .mapping []⟩ }) := rfl
  refine (run_bind_ok hadd).trans ?_
  exact (run_bind_ok h).trans rfl

theorem node_blockMapping {fuel : Nat} (hpeek : peek.run o = .ok (.blockMapping, q)) (hshows : Shows .blockMapping q.progress)
    (hpairs : (blockPairs fuel).run { dropped q with graph := q.graph.push ⟨.map, .mapping []⟩ } = .ok (ps, r)) :
    (node .block (fuel + 1)).run o =
      .ok (q.graph.size, { r with graph := r.graph.setContent q.graph.size (.mapping ps) }) := by
  rw [node]
  refine (run_bind_ok hpeek).trans ?_
  refine (run_bind_ok (properties_none hshows (by simp) (by simp))).trans ?_
  refine (run_bind_ok (peek_shown hshows)).trans ?_
  exact (run_bind_ok (drop_run q)).trans (mapping_run hpairs)

theorem node_flowMapping {fuel : Nat} (hpeek : peek.run o = .ok (.flowMapping, q)) (hshows : Shows .flowMapping q.progress)
    (place : Place)
    (hpairs : (flowPairs true fuel).run { dropped q with graph := q.graph.push ⟨.map, .mapping []⟩ } = .ok (ps, r)) :
    (node place (fuel + 1)).run o =
      .ok (q.graph.size, { r with graph := r.graph.setContent q.graph.size (.mapping ps) }) := by
  rw [node]
  refine (run_bind_ok hpeek).trans ?_
  refine (run_bind_ok (properties_none hshows (by simp) (by simp))).trans ?_
  refine (run_bind_ok (peek_shown hshows)).trans ?_
  cases place <;> exact (run_bind_ok (drop_run q)).trans (mapping_run hpairs)

theorem orNothing_run {tokens : List Token} {rule : Composing NodeId} {id : NodeId} (hpeek : peek.run o = .ok (t, q))
    (hother : tokens.contains t = false) (hrule : rule.run q = .ok (id, r)) : (orNothing tokens rule).run o = .ok (id, r) := by
  refine (run_bind_ok hpeek).trans ?_
  rw [hother]
  exact hrule

theorem documentEnds_none (h : Shows .streamEnd o.progress) (fuel : Nat) : (documentEnds (fuel + 1)).run o = .ok ((), o) := by
  rw [documentEnds]
  exact run_bind_ok (accept_other (peek_shown h) (by simp))

end Composing

/-! ### The document -/

namespace OneKey

open Composing

variable {ending written text : List Char} {m : Nat} {isPlain : Bool} {g : Graph} {v : Value}

/-- What a document without directives looks like on the way. -/
def outlook (p : Progress) (g : Graph) : Outlook := ⟨p, g, presetHandles, []⟩

/-- A mapping, the scalar that is its key, and the mapping of nothing that is its value. -/
def graph (text : List Char) (isPlain : Bool) (pairs : List (NodeId × NodeId)) : Graph :=
  #[⟨.map, .mapping pairs⟩, ⟨scalarTag text isPlain none, .scalar text⟩, ⟨.map, .mapping []⟩]

theorem flowPairs_none (hending : ending = [] ∨ ending = ['\n']) (fuel : Nat) :
    (flowPairs true (fuel + 1)).run (dropped (outlook (inBrackets ending m) g)) =
      .ok ([], outlook (behindBrackets ending m) g) := by
  rcases hending with rfl | rfl <;> rfl

theorem blockPairs_none (hending : ending = [] ∨ ending = ['\n']) (fuel : Nat) : ∃ p,
    (blockPairs (fuel + 1)).run (outlook (behindBrackets ending m) g) = .ok ([], outlook p g) ∧
      Shows .streamEnd p := by
  rcases hending with rfl | rfl <;> exact ⟨_, rfl, rfl⟩

theorem blockValue_none (hending : ending = [] ∨ ending = ['\n']) (fuel : Nat) :
    (blockValue (fuel + 3)).run (outlook (behindColon ending m [.value] 3) g) = .ok (g.size,
      outlook (behindBrackets ending m) (Graph.setContent (g.push ⟨.map, .mapping []⟩) g.size (.mapping []))) := by
  have hpeek : peek.run (outlook (behindColon ending m [] 4) g) =
      .ok (.flowMapping, outlook (inBrackets ending m) g) := rfl
  have hshows : Shows .flowMapping (inBrackets ending m) := rfl
  have hpairs := flowPairs_none (m := m) (g := g.push ⟨.map, .mapping []⟩) hending fuel
  have haccept : (accept .value).run (outlook (behindColon ending m [.value] 3) g) =
      .ok (true, outlook (behindColon ending m [] 4) g) := rfl
  have hnode := node_flowMapping (peek_shown (o := outlook (inBrackets ending m) g) hshows) hshows .entry hpairs
  rw [blockValue]
  refine (run_bind_ok haccept).trans ?_
  exact orNothing_run hpeek rfl hnode

variable (text isPlain) in
theorem blockPairs_key (hending : ending = [] ∨ ending = ['\n']) (fuel : Nat) : ∃ p, (blockPairs (fuel + 4)).run
    (outlook (behindColon ending m [.key, .scalar text isPlain, .value] 1) #[⟨.map, .mapping []⟩]) =
      .ok ([(1, 2)], outlook p (graph text isPlain [])) ∧ Shows .streamEnd p := by
  obtain ⟨p, hend, hshows⟩ := blockPairs_none (m := m) (g := graph text isPlain []) hending (fuel + 2)
  refine ⟨p, ?_, hshows⟩
  let behind := outlook (behindColon ending m [.scalar text isPlain, .value] 2) #[⟨.map, .mapping []⟩]
  have hkey : (accept .key).run
      (outlook (behindColon ending m [.key, .scalar text isPlain, .value] 1) #[⟨.map, .mapping []⟩]) =
        .ok (true, behind) := rfl
  have hscalar : Shows (.scalar text isPlain) behind.progress := rfl
  have hnode := node_scalar (peek_shown hscalar) hscalar .entry (fuel + 2)
  rw [blockPairs]
  refine (run_bind_ok hkey).trans ?_
  refine (run_bind_ok (orNothing_run (peek_shown hscalar) rfl hnode)).trans ?_
  refine (run_bind_ok (blockValue_none hending fuel)).trans ?_
  exact (run_bind_ok hend).trans rfl

theorem document_key (h : Begins written m (.scalar text isPlain)) (hm : m < 1024)
    (hending : ending = [] ∨ ending = ['\n']) (fuel : Nat) : ∃ p,
    (document (fuel + 5)).run (outlook (atStart (written ++ behindKey ending) (m + ending.length)) #[]) =
      .ok (some 0, outlook p (graph text isPlain [(1, 2)])) := by
  obtain ⟨p, hpairs, hend⟩ := blockPairs_key text isPlain (m := m) hending fuel
  let behind := outlook (behindColon ending m [.blockMapping, .key, .scalar text isPlain, .value] 0) #[]
  let done := outlook p (graph text isPlain [(1, 2)])
  have hpeek : peek.run (outlook (atStart (written ++ behindKey ending) (m + ending.length)) #[]) =
      .ok (.blockMapping, behind) := peek_reading (peek_key h hm ending)
  have hshows : Shows .blockMapping behind.progress := rfl
  have hnode : (node .block (fuel + 5)).run behind = .ok (0, done) :=
    node_blockMapping (peek_shown hshows) hshows hpairs
  refine ⟨p, ?_⟩
  unfold document
  refine (run_bind_ok hpeek).trans ?_
  refine (run_bind_ok hnode).trans ?_
  refine (run_bind_ok (documentEnds_none (o := done) hend (fuel + 4))).trans ?_
  exact (run_bind_ok (peek_shown (o := done) hend)).trans rfl

theorem document_far (h : Begins written m (.scalar text isPlain)) (hm : 1024 ≤ m) (ending : List Char) (fuel : Nat) :
    (document (fuel + 1)).run (outlook (atStart (written ++ behindKey ending) (m + ending.length)) #[]) =
      .error .malformed := by
  let behind := outlook (tooFar ending m [.scalar text isPlain] 0) #[]
  have hpeek : peek.run (outlook (atStart (written ++ behindKey ending) (m + ending.length)) #[]) =
      .ok (.scalar text isPlain, behind) := peek_reading (peek_far h hm ending)
  have hshows : Shows (.scalar text isPlain) behind.progress := rfl
  have hrefused : peek.run (outlook (tooFar ending m [] 1) #[⟨scalarTag text isPlain none, .scalar text⟩]) =
      .error .malformed := peek_reading_error peek_refused
  unfold document
  refine (run_bind_ok hpeek).trans ?_
  refine (run_bind_ok (node_scalar (peek_shown hshows) hshows .block fuel)).trans ?_
  refine run_bind_error ?_
  rw [documentEnds]
  exact run_bind_error (run_bind_error hrefused)

theorem start_eq (h : Begins written m (.scalar text isPlain)) (ending : List Char) :
    Progress.start ⟨written ++ behindKey ending, none⟩ =
      atStart (written ++ behindKey ending) (m + ending.length) := by
  have hlimit : (written ++ behindKey ending).length + 2 = m + ending.length + 7 := by
    simp only [List.length_append, h.length, behindKey, List.length_cons]
    omega
  unfold Progress.start atStart
  rw [hlimit]
  rfl

theorem ofSource?_key (h : Begins written m (.scalar text isPlain)) (hm : m < 1024)
    (hending : ending = [] ∨ ending = ['\n']) :
    Document.ofSource? ⟨written ++ behindKey ending, none⟩ = .ok (some ⟨graph text isPlain [(1, 2)], 0⟩) := by
  obtain ⟨p, hp⟩ := document_key h hm hending (16 * (m + ending.length) + 107)
  have hfuel : 16 * (m + ending.length + 7) = 16 * (m + ending.length) + 107 + 5 := by omega
  unfold Document.ofSource?
  rw [start_eq h ending]
  show ((document (16 * (m + ending.length + 7))).run (outlook _ #[]) >>= _) = _
  rw [hfuel, hp]
  rfl

theorem ofSource?_far (h : Begins written m (.scalar text isPlain)) (hm : 1024 ≤ m) (ending : List Char) :
    Document.ofSource? ⟨written ++ behindKey ending, none⟩ = .error .malformed := by
  have hfuel : 16 * (m + ending.length + 7) = 16 * (m + ending.length) + 111 + 1 := by omega
  unfold Document.ofSource?
  rw [start_eq h ending]
  show ((document (16 * (m + ending.length + 7))).run (outlook _ #[]) >>= _) = _
  rw [hfuel, document_far h hm]
  rfl

/-! ### The value -/

/-- A scalar is a whole number or a text. -/
structure Gives (text : List Char) (isPlain : Bool) (v : Value) : Prop where
  tag : scalarTag text isPlain none = .int ∨ scalarTag text isPlain none = .text
  value : Scalar.value (scalarTag text isPlain none) text = .ok v

def workshop (text : List Char) (isPlain : Bool) (made : List (Option Made)) (waiting : List NodeId) : Workshop :=
  { graph := graph text isPlain [(1, 2)], made := made.toArray, waiting, limit := 5 }

def keyOf (text : List Char) (v : Value) : Key :=
  { value := v, origin := if Scalar.isNotANumberWord text then none else some 1 }

theorem scalar_key (h : Gives text isPlain v) : Making.scalar (graph text isPlain [(1, 2)]) 5 1 = .ok v := by
  have htext : Making.textOf (graph text isPlain [(1, 2)]) 5 1 = .ok text := rfl
  have hnode : (graph text isPlain [(1, 2)]).tag 1 = scalarTag text isPlain none := rfl
  have hvalue := h.value
  unfold Making.scalar
  rw [htext, ok_bind, hnode]
  rcases h.tag with htag | htag <;> rw [htag] at hvalue ⊢ <;> exact hvalue

theorem make_run {id : NodeId} {w : Workshop} (hfree : w.made.getD id none = none)
    (htag : Making.isCollection (w.graph.tag id) = false) (hv : Making.scalar w.graph w.limit id = .ok v) :
    (Making.make id).run w = .ok ((), { w with made := w.made.setIfInBounds id (some (.value v)) }) := by
  unfold Making.make
  refine (run_bind_ok rfl).trans ?_
  simp only [hfree, htag, Option.isSome_none, Bool.false_eq_true, ↓reduceIte]
  refine (run_bind_ok (a := v) (t := w) ?_).trans rfl
  rw [hv]
  rfl

theorem make_key (h : Gives text isPlain v) : (Making.make 1).run (workshop text isPlain [some .waiting, none, none] []) =
    .ok ((), workshop text isPlain [some .waiting, some (.value v), none] []) := by
  have hnode : (graph text isPlain [(1, 2)]).tag 1 = scalarTag text isPlain none := rfl
  have hcollection : Making.isCollection ((graph text isPlain [(1, 2)]).tag 1) = false := by
    rw [hnode]
    rcases h.tag with htag | htag <;> rw [htag] <;> rfl
  exact make_run rfl hcollection (scalar_key h)

/-- The key is no mark of merging. -/
theorem merge_key (h : Gives text isPlain v) (made : List (Option Made)) (waiting : List NodeId) :
    (Making.merge 0).run (workshop text isPlain made waiting) = .ok ((), workshop text isPlain made waiting) := by
  unfold workshop graph
  rcases h.tag with htag | htag <;> rw [htag] <;> rfl

theorem entries_key (h : Gives text isPlain v) :
    (Making.entries 0).run (workshop text isPlain [some .waiting, none, none] []) =
      .ok ([(keyOf text v, 2)], workshop text isPlain [some .waiting, some (.value v), some .waiting] [2]) := by
  have hkey : (Making.key 1).run (workshop text isPlain [some .waiting, none, none] []) =
      .ok (keyOf text v, workshop text isPlain [some .waiting, some (.value v), none] []) :=
    (run_bind_ok (make_key h)).trans rfl
  have hentry : (Making.entry (1, 2)).run (workshop text isPlain [some .waiting, none, none] []) =
      .ok ((keyOf text v, 2), workshop text isPlain [some .waiting, some (.value v), some .waiting] [2]) :=
    (run_bind_ok hkey).trans rfl
  have hall : ([(1, 2)].mapM Making.entry).run (workshop text isPlain [some .waiting, none, none] []) =
      .ok ([(keyOf text v, 2)], workshop text isPlain [some .waiting, some (.value v), some .waiting] [2]) := by
    rw [List.mapM_cons]
    exact (run_bind_ok hentry).trans rfl
  unfold Making.entries
  refine (run_bind_ok rfl).trans ?_
  refine (run_bind_ok (merge_key h _ _)).trans ?_
  refine (run_bind_ok rfl).trans ?_
  exact (run_bind_ok hall).trans rfl

theorem document_run (h : Gives text isPlain v) :
    (Making.document 0).run (workshop text isPlain [none, none, none] []) = .ok ((),
      workshop text isPlain [some (.map [(keyOf text v, 2)]), some (.value v), some (.map [])] []) := by
  let filled := workshop text isPlain [some (.map [(keyOf text v, 2)]), some (.value v), some .waiting] [2]
  have hfill : (Making.fill 0).run (workshop text isPlain [some .waiting, none, none] []) = .ok ((), filled) := by
    unfold Making.fill
    refine (run_bind_ok rfl).trans ?_
    exact (run_bind_ok (entries_key h)).trans rfl
  have hfirst : ([0].forM Making.fill).run (workshop text isPlain [some .waiting, none, none] []) =
      .ok ((), filled) := (run_bind_ok hfill).trans rfl
  have hrest : (Making.fillAll 4).run filled =
      .ok ((), workshop text isPlain [some (.map [(keyOf text v, 2)]), some (.value v), some (.map [])] []) := rfl
  have hall : (Making.fillAll 5).run (workshop text isPlain [some .waiting, none, none] [0]) =
      .ok ((), workshop text isPlain [some (.map [(keyOf text v, 2)]), some (.value v), some (.map [])] []) := by
    rw [Making.fillAll]
    refine (run_bind_ok rfl).trans ?_
    refine (run_bind_ok (t := workshop text isPlain [some .waiting, none, none] []) rfl).trans ?_
    exact (run_bind_ok hfirst).trans hrest
  unfold Making.document
  refine (run_bind_ok (t := workshop text isPlain [some .waiting, none, none] [0]) rfl).trans ?_
  exact (run_bind_ok rfl).trans hall

theorem value_key (h : Gives text isPlain v) :
    Document.value ⟨graph text isPlain [(1, 2)], 0⟩ = .ok (.map [(v, .map [])]) := by
  unfold Document.value
  show ((Making.document 0).run (workshop text isPlain [none, none, none] []) >>= _) = _
  rw [document_run h]
  rfl

/-! ### Reading -/

/-- A key that is a token of no more than so many characters is the key of a mapping of one entry. -/
theorem read_key (h : Begins written m (.scalar text isPlain)) (hm : m < 1024)
    (hending : ending = [] ∨ ending = ['\n']) (hv : Gives text isPlain v) :
    read ⟨written ++ behindKey ending, none⟩ = .ok (.map [(v, .map [])]) := by
  unfold read
  rw [ofSource?_key h hm hending, ok_bind]
  exact value_key hv

/-- One that is longer is none. -/
theorem read_far (h : Begins written m (.scalar text isPlain)) (hm : 1024 ≤ m) (ending : List Char) :
    read ⟨written ++ behindKey ending, none⟩ = .error .malformed := by
  unfold read
  rw [ofSource?_far h hm ending]
  rfl

end OneKey

end Yaml
end Curfew
