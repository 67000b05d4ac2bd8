import Custody.Proofs.Loops

/-!
# Readings side by side

What a reading makes of a statement depends on the kinds and the texts of its tokens, up to the
end of the line.  A simulation relates the states of two readings; if it survives a step past a
token that does not end the line, the two read the same operation, or both fail with errors that
compare.
-/

namespace Custody

/-! ## Two readings side by side -/

/-- Two tokens that no reading tells apart: both end the line, or they are of one kind and text
and their spans are related. -/
def Token.Like (places : Span → Span → Prop) (left right : Token) : Prop :=
  (left.endsLine = true ∧ right.endsLine = true) ∨
    (left.endsLine = false ∧ left.kind = right.kind ∧ left.text = right.text ∧
      places left.span right.span)

theorem Token.endsLine_congr {left right : Token} (kind : left.kind = right.kind) :
    left.endsLine = right.endsLine := by
  rw [endsLine, endsLine, kind]

theorem Token.isWord_of_endsLine {token : Token} (ends : token.endsLine = true) (word : String) :
    token.isWord word = false := by
  simp [isWord, kind_ne_of_endsLine ends .name (by decide)]

theorem Token.isWord_congr {left right : Token} (kind : left.kind = right.kind)
    (text : left.text = right.text) (word : String) : left.isWord word = right.isWord word := by
  rw [isWord, isWord, kind, text]

theorem Token.Like.kind_iff {places : Span → Span → Prop} {left right : Token}
    (like : left.Like places right) (kind : Token.Kind) (solid : kind ≠ .lineEnd ∧ kind ≠ .stop) :
    left.kind = kind ↔ right.kind = kind := by
  rcases like with ⟨first, second⟩ | ⟨-, same, -⟩
  · simp [kind_ne_of_endsLine first kind solid, kind_ne_of_endsLine second kind solid]
  · rw [same]

theorem Token.Like.isWord_eq {places : Span → Span → Prop} {left right : Token}
    (like : left.Like places right) (word : String) : left.isWord word = right.isWord word := by
  rcases like with ⟨first, second⟩ | ⟨-, kind, text, -⟩
  · rw [isWord_of_endsLine first, isWord_of_endsLine second]
  · exact isWord_congr kind text word

namespace Reading

/-- How two readings are compared: the states of their statements, the places of their tokens, their
errors, and the states in which they are given up. -/
structure Comparison where
  lines : Line → Line → Prop
  places : Span → Span → Prop
  faults : SyntaxError → SyntaxError → Prop
  givenUp : Line → Line → Prop

/-- Two outcomes of one reading: both are errors that compare, in states where readings are given
up, or the values are the same and the statements are left in related states. -/
inductive Related (C : Comparison) {α : Type} :
    Except SyntaxError α × Line → Except SyntaxError α × Line → Prop
  | ok (value : α) {s t : Line} (related : C.lines s t) : Related C (.ok value, s) (.ok value, t)
  | error {left right : SyntaxError} {s t : Line} (alike : C.faults left right)
      (givenUp : C.givenUp s t) : Related C (.error left, s) (.error right, t)

/-- Two readings agree on related statements. -/
def Agree (C : Comparison) {α : Type} (p q : Reading α) : Prop :=
  ∀ s t : Line, C.lines s t → Related C (p.run s) (q.run t)

/-- Two readings agree on related statements that can go on. -/
def AgreeWithin (C : Comparison) {α : Type} (p q : Reading α) : Prop :=
  ∀ s t : Line, C.lines s t → s.current.endsLine = false → Related C (p.run s) (q.run t)

/-- A relation between statements that readings cannot break, where the errors about tokens in the
same position compare and readings can be given up anywhere.  The loops of both are bounded alike,
or they never reach their bounds. -/
structure Simulation (C : Comparison) : Prop where
  current : ∀ {s t : Line}, C.lines s t → s.current.Like C.places t.current
  bounds : ∀ {s t : Line}, C.lines s t → s.rest.length = t.rest.length ∨ s.Ended ∧ t.Ended
  advance : AgreeWithin C advance advance
  givenUp : ∀ {s t : Line}, C.lines s t → C.givenUp s t
  refusal : ∀ {s t : Line}, C.lines s t → ∀ expected,
    C.faults (.unexpectedToken expected s.current.describe s.current.span)
      (.unexpectedToken expected t.current.describe t.current.span)
  keyword : ∀ {p q : Span}, C.places p q → ∀ word expected context,
    C.faults (.unknownKeyword word expected context p) (.unknownKeyword word expected context q)
  literal : ∀ {p q : Span}, C.places p q → ∀ fault,
    C.faults (.invalidLiteral fault p) (.invalidLiteral fault q)

section

variable {C : Comparison} {α β : Type} {p q : Reading α}

theorem Agree.within (agree : Agree C p q) : AgreeWithin C p q :=
  fun s t related _ => agree s t related

theorem agree_pure (value : α) : Agree C (pure value) (pure value) :=
  fun _ _ related => .ok value related

theorem Related.bind {s t : Line} {f g : α → Reading β} (first : Related C (p.run s) (q.run t))
    (next : ∀ value, Agree C (f value) (g value)) :
    Related C ((p >>= f).run s) ((q >>= g).run t) := by
  rw [run_bind, run_bind]
  generalize p.run s = left at first ⊢
  generalize q.run t = right at first ⊢
  cases first with
  | ok value related => exact next value _ _ related
  | error alike givenUp => exact .error alike givenUp

theorem Agree.bind {f g : α → Reading β} (first : Agree C p q)
    (next : ∀ value, Agree C (f value) (g value)) : Agree C (p >>= f) (q >>= g) :=
  fun s t related => (first s t related).bind next

theorem AgreeWithin.bind {f g : α → Reading β} (first : AgreeWithin C p q)
    (next : ∀ value, Agree C (f value) (g value)) : AgreeWithin C (p >>= f) (q >>= g) :=
  fun s t related within => (first s t related within).bind next

theorem agree_ite {c d : Prop} [Decidable c] [Decidable d] (same : c ↔ d) {p' q' : Reading α}
    (yes : Agree C p q) (no : Agree C p' q') :
    Agree C (if c then p else p') (if d then q else q') := by
  by_cases holds : d
  · rw [if_pos (same.mpr holds), if_pos holds]
    exact yes
  · rw [if_neg (mt same.mp holds), if_neg holds]
    exact no

end

theorem valueOf_congr {left right : Token} (kind : left.kind = right.kind)
    (text : left.text = right.text) : valueOf left = valueOf right := by
  rw [valueOf, valueOf, kind, text]

/-- What is left to do when the operation of a statement has been read. -/
def conclude (first : Span) (found : Operation) : Reading Node := do
  let line ← get
  if line.current.endsLine then return ⟨found, first.cover line.last⟩
  else unexpected "end of statement"

theorem statement_run (line : Line) :
    statement.run line = (operation >>= conclude line.current.span).run line := rfl

theorem conclude_run_of_endsLine {line : Line} (ends : line.current.endsLine = true) (first : Span)
    (found : Operation) :
    (conclude first found).run line = (.ok ⟨found, first.cover line.last⟩, line) := by
  have run : (conclude first found).run line = (if line.current.endsLine = true
    then (pure ⟨found, first.cover line.last⟩ : Reading Node)
    else unexpected "end of statement").run line := rfl
  rw [run, if_pos ends]
  rfl

theorem conclude_run_of_not_endsLine {line : Line} (goes : line.current.endsLine = false)
    (first : Span) (found : Operation) :
    (conclude first found).run line = (.error (.unexpectedToken "end of statement"
      line.current.describe line.current.span), line) := by
  have run : (conclude first found).run line = (if line.current.endsLine = true
    then (pure ⟨found, first.cover line.last⟩ : Reading Node)
    else unexpected "end of statement").run line := rfl
  rw [run, if_neg (by simp [goes])]
  rfl

namespace Simulation

variable {C : Comparison} {α β : Type}

/-- Readings that look at the current token agree if they do on an end of the line and on tokens
of one kind and text. -/
theorem agree_current (sim : Simulation C) {f g : Token → Reading α}
    (ended : ∀ a b, a.endsLine = true → b.endsLine = true → Agree C (f a) (g b))
    (going : ∀ a b, a.endsLine = false → b.endsLine = false → a.kind = b.kind → a.text = b.text →
      C.places a.span b.span → AgreeWithin C (f a) (g b)) :
    Agree C (Reading.current >>= f) (Reading.current >>= g) := by
  intro s t related
  have like := sim.current related
  rcases like with ⟨left, right⟩ | ⟨solid, kind, text, place⟩
  · exact ended _ _ left right s t related
  · exact going _ _ solid (Token.endsLine_congr kind ▸ solid) kind text place s t related solid

theorem agree_throw (sim : Simulation C) {left right : SyntaxError} (alike : C.faults left right) :
    Agree C (throw left : Reading α) (throw right) :=
  fun _ _ related => .error alike (sim.givenUp related)

theorem agree_unexpected (sim : Simulation C) (expected : String) :
    Agree C (unexpected expected : Reading α) (unexpected expected) :=
  fun _ _ related => .error (sim.refusal related expected) (sim.givenUp related)

/-- What would follow a refusal does not matter. -/
theorem agree_unexpected_bind (sim : Simulation C) (expected : String) (f g : α → Reading β) :
    Agree C (unexpected expected >>= f) (unexpected expected >>= g) :=
  fun _ _ related => .error (sim.refusal related expected) (sim.givenUp related)

theorem agree_look (sim : Simulation C) {f g : Token → Reading α}
    (next : ∀ a b, a.Like C.places b → Agree C (f a) (g b)) :
    Agree C (Reading.current >>= f) (Reading.current >>= g) :=
  fun s t related => next _ _ (sim.current related) s t related

theorem agree_at? (sim : Simulation C) {kind : Token.Kind}
    (solid : kind ≠ .lineEnd ∧ kind ≠ .stop) {p q p' q' : Reading α} (yes : AgreeWithin C p q)
    (no : Agree C p' q') :
    Agree C (at? kind >>= fun found => if found = true then p else p')
      (at? kind >>= fun found => if found = true then q else q') := by
  simp only [at?, bind_assoc, pure_bind]
  apply sim.agree_current
  · intro a b left right
    have other := Token.kind_ne_of_endsLine left kind solid
    have another := Token.kind_ne_of_endsLine right kind solid
    simpa [other, another] using no
  · intro a b within also same _ _
    rw [← same]
    by_cases found : a.kind = kind
    · simpa [found] using yes
    · simpa [found] using no.within

theorem agree_atEnd (sim : Simulation C) {p q p' q' : Reading α} (yes : Agree C p q)
    (no : AgreeWithin C p' q') :
    Agree C (atEnd >>= fun found => if found = true then p else p')
      (atEnd >>= fun found => if found = true then q else q') := by
  simp only [atEnd, bind_assoc, pure_bind]
  apply sim.agree_current
  · intro a b left right
    simpa [left, right] using yes
  · intro a b within also same _ _
    simpa [within, also] using no

theorem agree_expect (sim : Simulation C) {kind : Token.Kind} (expected : String)
    (solid : kind ≠ .lineEnd ∧ kind ≠ .stop) {f g : Token → Reading α}
    (next : ∀ a b, a.text = b.text → C.places a.span b.span → Agree C (f a) (g b)) :
    Agree C (expect kind expected >>= f) (expect kind expected >>= g) := by
  unfold expect
  simp only [bind_assoc]
  apply sim.agree_current
  · intro a b left right
    rw [if_neg (Token.kind_ne_of_endsLine left kind solid),
      if_neg (Token.kind_ne_of_endsLine right kind solid)]
    exact sim.agree_unexpected_bind expected f g
  · intro a b within also same text place
    rw [← same]
    by_cases found : a.kind = kind
    · rw [if_pos found, if_pos found]
      simp only [bind_assoc, pure_bind]
      exact sim.advance.bind fun _ => next a b text place
    · rw [if_neg found, if_neg found]
      exact (sim.agree_unexpected_bind expected f g).within

theorem agree_name (sim : Simulation C) (expected : String) :
    Agree C (name expected) (name expected) := by
  apply sim.agree_expect expected (by decide)
  intro a b text _
  rw [text]
  exact agree_pure b.text

theorem agree_word (sim : Simulation C) (ofWord? : String → Option α) (context choices : String) :
    Agree C (word ofWord? context choices) (word ofWord? context choices) := by
  apply sim.agree_current
  · intro a b left right
    rw [if_neg (Token.kind_ne_of_endsLine left .name (by decide)),
      if_neg (Token.kind_ne_of_endsLine right .name (by decide))]
    exact sim.agree_unexpected context
  · intro a b within also same text place
    rw [← same, ← text]
    by_cases found : a.kind = .name
    · rw [if_pos found, if_pos found]
      cases ofWord? a.text with
      | none => exact (sim.agree_throw (sim.keyword place _ _ _)).within
      | some value => exact sim.advance.bind fun _ => agree_pure value
    · rw [if_neg found, if_neg found]
      exact (sim.agree_unexpected context).within

theorem agree_value (sim : Simulation C) : Agree C value value := by
  apply sim.agree_current
  · intro a b left right
    rw [valueOf_of_endsLine left, valueOf_of_endsLine right]
    exact sim.agree_unexpected _
  · intro a b within also same text place
    rw [valueOf_congr same text]
    cases valueOf b with
    | ok value => exact sim.advance.bind fun _ => agree_pure value
    | error fault =>
      cases fault with
      | none => exact (sim.agree_unexpected _).within
      | some fault => exact (sim.agree_throw (sim.literal place fault)).within

theorem agree_bound (sim : Simulation C) : Agree C bound bound := by
  apply sim.agree_expect _ (by decide)
  intro a b text place
  rw [text]
  cases Decimal.readInt64 b.text.toList with
  | ok value => exact agree_pure value
  | error fault => exact sim.agree_throw (sim.literal place _)

theorem agree_keys (sim : Simulation C) (bound : Nat) : Agree C (keys bound) (keys bound) := by
  induction bound with
  | zero => exact agree_pure []
  | succ more ih =>
    rw [keys]
    apply sim.agree_at? (by decide)
    · exact sim.advance.bind fun _ => agree_pure []
    · apply sim.agree_value.bind
      intro key
      have later : Agree C (do return key :: (← keys more)) (do return key :: (← keys more)) :=
        ih.bind fun later => agree_pure (key :: later)
      apply sim.agree_at? (by decide)
      · exact sim.advance.bind fun _ => later
      · apply sim.agree_at? (by decide)
        · exact later.within
        · exact sim.agree_unexpected_bind _ _ _

theorem agree_get {f g : Line → Reading α}
    (next : ∀ s t, C.lines s t → Related C ((f s).run s) ((g t).run t)) :
    Agree C (get >>= f) (get >>= g) :=
  next

/-- Loops agree, each with its own bound, if they agree with any bound in common. -/
theorem related_bounded (sim : Simulation C) {loop : Nat → Reading α} {s t : Line}
    (related : C.lines s t)
    (agrees : ∀ bound, Related C ((loop bound).run s) ((loop bound).run t))
    (unbounded : ∀ {line bound other}, line = s ∨ line = t → line.Ended →
      line.rest.length < bound → line.rest.length < other →
      (loop bound).run line = (loop other).run line) :
    Related C ((loop (s.rest.length + 1)).run s) ((loop (t.rest.length + 1)).run t) := by
  rcases sim.bounds related with same | ⟨first, second⟩
  · rw [same]
    exact agrees _
  · have left := unbounded (.inl rfl) first (Nat.lt_succ_self _)
      (show s.rest.length < s.rest.length + t.rest.length + 1 by omega)
    have right := unbounded (.inr rfl) second (Nat.lt_succ_self _)
      (show t.rest.length < s.rest.length + t.rest.length + 1 by omega)
    rw [left, right]
    exact agrees _

theorem agree_extent (sim : Simulation C) : Agree C extent extent := by
  apply agree_get
  intro s t related
  rcases sim.current related with ⟨left, right⟩ | ⟨solid, kind, -, -⟩
  · rcases Token.kind_of_endsLine left with first | first <;>
      rcases Token.kind_of_endsLine right with second | second <;>
      (rw [first, second]; exact .error (sim.refusal related _) (sim.givenUp related))
  · have going : t.current.endsLine = false := Token.endsLine_congr kind ▸ solid
    rw [← kind]
    cases s.current.kind with
    | leftSquare =>
      apply AgreeWithin.bind sim.advance _ s t related solid
      intro _
      apply sim.agree_bound.bind
      intro low
      apply sim.agree_expect _ (by decide)
      intro _ _ _ _
      apply sim.agree_bound.bind
      intro high
      apply sim.agree_expect _ (by decide)
      intro _ _ _ _
      exact agree_pure _
    | leftBrace =>
      have agrees (bound : Nat) : Related C ((braced bound).run s) ((braced bound).run t) := by
        apply AgreeWithin.bind sim.advance _ s t related solid
        intro _
        exact (sim.agree_keys bound).bind fun keys => agree_pure _
      apply sim.related_bounded related agrees
      rintro line bound other (rfl | rfl) ended enough sufficient
      · exact braced_run_eq ended solid enough sufficient
      · exact braced_run_eq ended going enough sufficient
    | _ => exact .error (sim.refusal related _) (sim.givenUp related)

theorem agree_extent? (sim : Simulation C) : Agree C extent? extent? := by
  apply sim.agree_atEnd
  · exact agree_pure none
  · exact (sim.agree_extent.bind fun extent => agree_pure (some extent)).within

theorem agree_declare (sim : Simulation C) : Agree C declare declare := by
  rw [declare]
  apply (sim.agree_name _).bind
  intro container
  apply sim.agree_expect _ (by decide)
  intro _ _ _ _
  apply (sim.agree_word _ _ _).bind
  intro element
  apply sim.agree_at? (by decide)
  · apply sim.advance.bind
    intro _
    apply (sim.agree_word _ _ _).bind
    intro key
    apply sim.agree_expect _ (by decide)
    intro _ _ _ _
    apply (agree_pure _).bind
    intro key
    exact (sim.agree_word _ _ _).bind fun mode => agree_pure _
  · apply (agree_pure _).bind
    intro key
    exact (sim.agree_word _ _ _).bind fun mode => agree_pure _

theorem agree_bind (sim : Simulation C) : Agree C Reading.bind Reading.bind := by
  apply (sim.agree_name _).bind
  intro binding
  apply sim.agree_expect _ (by decide)
  intro _ _ _ _
  apply (sim.agree_name _).bind
  intro container
  apply sim.agree_atEnd
  · exact agree_pure _
  · exact ((sim.agree_word _ _ _).bind fun perspective => agree_pure _).within

theorem agree_operand (sim : Simulation C) : Agree C operand operand := by
  apply sim.agree_at? (by decide)
  · apply sim.advance.bind
    intro _
    apply (sim.agree_name _).bind
    intro first
    apply sim.agree_look
    intro a b like
    cases Effect.ofWord? first with
    | none => exact agree_pure _
    | some effect =>
      apply agree_ite
      · rw [like.kind_iff .name (by decide), like.isWord_eq, like.isWord_eq]
      · exact (sim.agree_name _).bind fun source => agree_pure _
      · exact agree_pure _
  · exact sim.agree_value.bind fun value => agree_pure _

theorem agree_pushOption (sim : Simulation C) (given : Option Value × Option Conversion) :
    Agree C (pushOption given) (pushOption given) := by
  apply sim.agree_current
  · intro a b left right
    rw [if_pos left, if_pos right]
    exact agree_pure given
  · intro a b within also same text place
    simp only [within, also, Bool.false_eq_true, if_false, Token.isWord_congr same text]
    split
    · apply sim.advance.bind
      intro _
      exact sim.agree_value.bind fun key => agree_pure _
    split
    · apply sim.advance.bind
      intro _
      exact (sim.agree_word _ _ _).bind fun conversion => agree_pure _
    · exact (sim.agree_unexpected _).within

theorem agree_push (sim : Simulation C) : Agree C push push := by
  apply (sim.agree_name _).bind
  intro binding
  apply sim.agree_operand.bind
  intro operand
  apply (sim.agree_pushOption _).bind
  intro first
  apply (sim.agree_pushOption _).bind
  intro second
  exact (sim.agree_pushOption _).bind fun given => agree_pure _

theorem agree_borrow (sim : Simulation C) : Agree C borrow borrow := by
  apply (sim.agree_name _).bind
  intro binding
  apply sim.agree_expect _ (by decide)
  intro _ _ _ _
  apply (sim.agree_name _).bind
  intro source
  apply sim.agree_extent.bind
  intro extent
  exact (sim.agree_word _ _ _).bind fun mode => agree_pure _

theorem agree_captures (sim : Simulation C) (bound : Nat) :
    Agree C (captures bound) (captures bound) := by
  induction bound with
  | zero => exact agree_pure []
  | succ more ih =>
    rw [captures]
    apply sim.agree_atEnd
    · exact agree_pure []
    · apply Agree.within
      apply (sim.agree_name _).bind
      intro first
      apply sim.agree_look
      intro a b like
      let rest (capture : Capture) : Reading (List Capture) := do
        if ← at? .comma then Reading.advance
        else unless ← atEnd do unexpected "',' or end of statement"
        return capture :: (← captures more)
      have finish (capture : Capture) : Agree C (rest capture) (rest capture) := by
        apply sim.agree_at? (by decide)
        · apply sim.advance.bind
          intro _
          exact ih.bind fun later => agree_pure _
        · apply sim.agree_atEnd
          · exact ih.bind fun later => agree_pure _
          · apply Agree.within
            exact sim.agree_unexpected_bind _ _ _
      apply agree_ite
      · rw [like.kind_iff .name (by decide)]
      · apply (sim.agree_name _).bind
        intro second
        exact (agree_pure _).bind finish
      · exact (agree_pure _).bind finish

theorem agree_arms (sim : Simulation C) (bound : Nat) : Agree C (arms bound) (arms bound) := by
  induction bound with
  | zero => exact agree_pure ([], false)
  | succ more ih =>
    apply sim.agree_current
    · intro a b left right
      rw [if_pos left, if_pos right]
      exact agree_pure ([], false)
    · intro a b within also same text place
      simp only [within, also, Bool.false_eq_true, if_false, Token.isWord_congr same text]
      split
      · apply sim.advance.bind
        intro _
        exact ih.bind fun later => agree_pure _
      · apply Agree.within
        apply (sim.agree_word _ _ _).bind
        intro arm
        have later : Agree C (do let found ← arms more; return (arm :: found.1, found.2))
            (do let found ← arms more; return (arm :: found.1, found.2)) :=
          ih.bind fun found => agree_pure _
        apply sim.agree_at? (by decide)
        · exact sim.advance.bind fun _ => later
        · exact later

theorem agree_scope (sim : Simulation C) (kind : ScopeKind) :
    Agree C (scope kind) (scope kind) := by
  apply sim.agree_expect _ (by decide)
  intro _ _ _ _
  exact agree_pure _

theorem agree_choose (sim : Simulation C) : Agree C choose choose := by
  apply (sim.agree_name _).bind
  intro binding
  apply agree_get
  intro s t related
  have found := sim.related_bounded related (fun bound => sim.agree_arms bound s t related)
    fun _ => arms_run_eq
  apply found.bind
  intro found
  dsimp only
  split
  · exact sim.agree_unexpected _
  · exact agree_pure _

theorem agree_afterWord (sim : Simulation C) {first second : Token}
    (text : first.text = second.text) (place : C.places first.span second.span) :
    Agree C (afterWord first) (afterWord second) := by
  unfold afterWord
  rw [text]
  split
  · exact sim.agree_declare
  · exact sim.agree_bind
  · exact sim.agree_push
  · apply (sim.agree_name _).bind
    intro binding
    exact sim.agree_extent?.bind fun extent => agree_pure _
  · apply (sim.agree_name _).bind
    intro binding
    exact sim.agree_extent?.bind fun extent => agree_pure _
  · exact sim.agree_borrow
  · apply (sim.agree_name _).bind
    intro binding
    exact (sim.agree_word _ _ _).bind fun perspective => agree_pure _
  · exact (sim.agree_name _).bind fun binding => agree_pure _
  · apply (sim.agree_name _).bind
    intro target
    apply sim.agree_expect _ (by decide)
    intro _ _ _ _
    exact (sim.agree_name _).bind fun source => agree_pure _
  · apply agree_get
    intro s t related
    have found := sim.related_bounded related (fun bound => sim.agree_captures bound s t related)
      fun _ => captures_run_eq
    exact found.bind fun captures => agree_pure _
  · exact (sim.agree_name _).bind fun binding => agree_pure _
  · exact sim.agree_choose
  · exact sim.agree_scope _
  · exact sim.agree_scope _
  · exact sim.agree_scope _
  · exact sim.agree_scope _
  · exact sim.agree_throw (sim.keyword place _ _ _)

theorem agree_operation (sim : Simulation C) : Agree C operation operation := by
  apply sim.agree_current
  · intro a b left right
    rcases Token.kind_of_endsLine left with first | first <;>
      rcases Token.kind_of_endsLine right with second | second <;>
      (rw [first, second]; exact sim.agree_unexpected _)
  · intro a b within also same text place
    rw [← same]
    cases a.kind with
    | leftBrace => exact sim.advance.bind fun _ => agree_pure _
    | rightBrace => exact sim.advance.bind fun _ => agree_pure _
    | name => exact sim.advance.bind fun _ => sim.agree_afterWord text place
    | _ => exact (sim.agree_unexpected _).within

/-- Two readings of statements: both fail with errors that compare where they are given up, or both
give the same operation, and each is left at the end of its line and spans what it has read. -/
theorem statement_related (sim : Simulation C) {s t : Line} (related : C.lines s t) :
    (∃ left right s' t', C.faults left right ∧ C.givenUp s' t' ∧
        statement.run s = (.error left, s') ∧ statement.run t = (.error right, t')) ∨
      ∃ operation s' t', C.lines s' t' ∧ s'.current.endsLine = true ∧
        statement.run s = (.ok ⟨operation, s.current.span.cover s'.last⟩, s') ∧
        statement.run t = (.ok ⟨operation, t.current.span.cover t'.last⟩, t') := by
  have read := sim.agree_operation s t related
  rw [statement_run, statement_run, run_bind, run_bind]
  generalize operation.run s = left at read ⊢
  generalize operation.run t = right at read ⊢
  cases read with
  | error alike givenUp => exact .inl ⟨_, _, _, _, alike, givenUp, rfl, rfl⟩
  | @ok found s' t' after =>
    rcases sim.current after with ⟨left, right⟩ | ⟨solid, kind, -, -⟩
    · exact .inr ⟨found, s', t', after, left, conclude_run_of_endsLine left _ found,
        conclude_run_of_endsLine right _ found⟩
    · have goes : t'.current.endsLine = false := Token.endsLine_congr kind ▸ solid
      exact .inl ⟨_, _, s', t', sim.refusal after _, sim.givenUp after,
        conclude_run_of_not_endsLine solid _ found, conclude_run_of_not_endsLine goes _ found⟩

end Simulation

end Reading

end Custody
