import ImportAtlas.Json.Parser
import Mathlib.Data.List.TakeWhile

/-! # Limits of reading JSON

Two limits are set to what is read besides the grammar: how many digits an integer has, and how
deep arrays and objects are nested. Main statement: a text in which neither so many digits follow
each other nor so many brackets are opened is a document or malformed.
-/

namespace ImportAtlas.Json

/-! ## Integers -/

def IsDigitRun (run chars : List Char) : Prop :=
  run <:+: chars ∧ ∀ char ∈ run, char.isDigit = true

def HoldsOverlong (chars : List Char) (digits : Nat) : Prop :=
  Decimal.digitLimit < digits ∧ ∃ run, run.length = digits ∧ IsDigitRun run chars

theorem HoldsOverlong.mono {part chars : List Char} {digits : Nat}
    (holds : HoldsOverlong part digits) (inside : part <:+: chars) :
    HoldsOverlong chars digits := by
  rcases holds with ⟨tooMany, run, length, isPart, areDigits⟩
  exact ⟨tooMany, run, length, isPart.trans inside, areDigits⟩

private theorem overlong_of_mem_numberTokens {negative : Bool} {whole rest : List Char}
    {digits : Nat}
    (member : .overlong digits ∈ numberTokens negative whole rest) :
    Decimal.digitLimit < digits ∧ whole.length = digits := by
  simp only [numberTokens, List.mem_cons] at member
  rcases member with isFirst | inRest
  · split at isFirst
    · split at isFirst
      · rename_i tooMany
        obtain rfl := Token.overlong.inj isFirst
        exact ⟨tooMany, rfl⟩
      · cases isFirst
    · cases isFirst
  · split at inRest <;> simp at inRest

private theorem holdsOverlong_of_mem_wordTokens {word : List Char} {digits : Nat}
    (member : .overlong digits ∈ wordTokens word) : HoldsOverlong word digits := by
  unfold wordTokens at member
  -- The words with a meaning of their own have no digits.
  repeat (split at member; · simp at member)
  split at member
  rename_i negative unsigned signed
  have inside : unsigned <:+: word := by
    split at signed
    · obtain rfl := congrArg Prod.snd signed
      exact (List.suffix_cons _ _).isInfix
    · obtain rfl := congrArg Prod.snd signed
      exact List.infix_rfl
  split at member
  · rcases overlong_of_mem_numberTokens member with ⟨tooMany, length⟩
    simp [Decimal.digitLimit, ← length] at tooMany
  · split at member
    · simp at member
    · rename_i whole rest _ spanned
      rcases overlong_of_mem_numberTokens member with ⟨tooMany, length⟩
      obtain rfl : unsigned.takeWhile Char.isDigit = whole := congrArg Prod.fst spanned
      exact ⟨tooMany, _, length, (List.takeWhile_prefix _).isInfix.trans inside,
        fun char => List.mem_takeWhile_imp⟩

/-! ## Steps of the lexer -/

def LexState.pending : LexState → List Char
  | .word reversed => reversed.reverse
  | _ => []

def Token.isOpening : Token → Bool
  | .openArray | .openObject => true
  | _ => false

def isOpeningBracket (char : Char) : Bool :=
  char == '[' || char == '\x7B'

/-- A step goes on in a word, or ends what there is and starts anew, or stays in a quoted text, of
which only texts and faults come. -/
theorem lexStep_cases (state : LexState) (char : Char) :
    ((lexStep state char).1 = [] ∧ (lexStep state char).2.pending = state.pending ++ [char]) ∨
    lexStep state char = (lexEnd state ++ (idleStep char).1, (idleStep char).2) ∨
    ((∀ token ∈ (lexStep state char).1, token = .invalid ∨ ∃ value, token = .text value) ∧
      (lexStep state char).2.pending = []) := by
  cases state with
  | idle => exact Or.inr (Or.inl rfl)
  | word reversed =>
      by_cases goesOn : isWordChar char = true
      · exact Or.inl (by simp [lexStep, goesOn, LexState.pending])
      · exact Or.inr (Or.inl (by simp [lexStep, goesOn, lexEnd]))
  | _ =>
      refine Or.inr (Or.inr ?_)
      simp only [lexStep]
      (repeat' split) <;> simp [LexState.pending]

private theorem overlong_not_mem_idleStep {char : Char} {digits : Nat} :
    .overlong digits ∉ (idleStep char).1 := by
  unfold idleStep
  split <;> try split
  all_goals simp

private theorem pending_idleStep_suffix (char : Char) : (idleStep char).2.pending <:+ [char] := by
  unfold idleStep
  split <;> try split
  all_goals simp [LexState.pending]

private theorem countP_idleStep_le (char : Char) :
    (idleStep char).1.countP Token.isOpening ≤ [char].countP isOpeningBracket := by
  unfold idleStep
  split <;> try split
  all_goals simp [Token.isOpening, isOpeningBracket]

/-! ## Digits in a row -/

theorem holdsOverlong_of_mem_lexEnd {state : LexState} {digits : Nat}
    (member : .overlong digits ∈ lexEnd state) : HoldsOverlong state.pending digits := by
  cases state with
  | word reversed => exact holdsOverlong_of_mem_wordTokens member
  | _ => simp [lexEnd] at member

private theorem holdsOverlong_of_mem_lexStep {state : LexState} {char : Char} {digits : Nat}
    (member : .overlong digits ∈ (lexStep state char).1) : HoldsOverlong state.pending digits := by
  rcases lexStep_cases state char with ⟨nothing, _⟩ | ends | ⟨quoted, _⟩
  · rw [nothing] at member
    cases member
  · rw [ends] at member
    rcases List.mem_append.mp member with before | behind
    · exact holdsOverlong_of_mem_lexEnd before
    · exact absurd behind overlong_not_mem_idleStep
  · rcases quoted _ member with isInvalid | ⟨value, isText⟩
    · cases isInvalid
    · cases isText

private theorem pending_lexStep_suffix (state : LexState) (char : Char) :
    (lexStep state char).2.pending <:+ state.pending ++ [char] := by
  rcases lexStep_cases state char with ⟨_, goesOn⟩ | ends | ⟨_, nothing⟩
  · exact goesOn ▸ List.suffix_rfl
  · rw [ends]
    exact (pending_idleStep_suffix char).trans (List.suffix_append _ _)
  · exact nothing ▸ List.nil_suffix

private theorem holdsOverlong_of_mem_tokensFrom {state : LexState} {chars : List Char}
    {digits : Nat}
    (member : .overlong digits ∈ tokensFrom state chars) :
    HoldsOverlong (state.pending ++ chars) digits := by
  induction chars generalizing state with
  | nil =>
      rw [List.append_nil]
      exact holdsOverlong_of_mem_lexEnd member
  | cons char rest induction =>
      rcases List.mem_append.mp member with now | later
      · exact (holdsOverlong_of_mem_lexStep now).mono (List.prefix_append _ _).isInfix
      · have kept : (lexStep state char).2.pending ++ rest <:+ state.pending ++ char :: rest := by
          rcases pending_lexStep_suffix state char with ⟨gone, equal⟩
          exact ⟨gone, by rw [← List.append_assoc, equal, List.append_assoc, List.singleton_append]⟩
        exact (induction later).mono kept.isInfix

/-! ## Brackets -/

private theorem countP_numberTokens (negative : Bool) (whole rest : List Char) :
    (numberTokens negative whole rest).countP Token.isOpening = 0 := by
  simp only [numberTokens, List.countP_eq_zero, List.mem_cons]
  rintro token (rfl | inRest)
  · repeat' split
    all_goals simp [Token.isOpening]
  · split at inRest <;> simp_all [Token.isOpening]

theorem countP_lexEnd (state : LexState) : (lexEnd state).countP Token.isOpening = 0 := by
  cases state with
  | word reversed =>
      unfold lexEnd wordTokens
      repeat' split
      all_goals first | exact countP_numberTokens _ _ _ | rfl
  | _ => rfl

private theorem countP_lexStep_le (state : LexState) (char : Char) :
    (lexStep state char).1.countP Token.isOpening ≤ [char].countP isOpeningBracket := by
  rcases lexStep_cases state char with ⟨nothing, _⟩ | ends | ⟨quoted, _⟩
  · rw [nothing]
    exact Nat.zero_le _
  · rw [ends, List.countP_append, countP_lexEnd, Nat.zero_add]
    exact countP_idleStep_le char
  · have noneOpening : (lexStep state char).1.countP Token.isOpening = 0 := by
      rw [List.countP_eq_zero]
      intro token member
      rcases quoted token member with rfl | ⟨value, rfl⟩ <;> simp [Token.isOpening]
    rw [noneOpening]
    exact Nat.zero_le _

private theorem countP_tokensFrom_le (state : LexState) (chars : List Char) :
    (tokensFrom state chars).countP Token.isOpening ≤ chars.countP isOpeningBracket := by
  induction chars generalizing state with
  | nil =>
      rw [tokensFrom, countP_lexEnd]
      exact Nat.zero_le _
  | cons char rest induction =>
      have now := countP_lexStep_le state char
      have later := induction (lexStep state char).2
      have split : (char :: rest).countP isOpeningBracket =
          [char].countP isOpeningBracket + rest.countP isOpeningBracket := by
        rw [← List.countP_append, List.singleton_append]
      rw [split, tokensFrom, List.countP_append]
      exact Nat.add_le_add now later

/-! ## Faults -/

def ParseState.opened (state : ParseState) : Nat :=
  match state.expectation with
  | .value | .finished _ => state.stack.length
  | _ => state.stack.length + 1

def ParseError.IsFoundIn (limit opened : Nat) (tokens : List Token) : ParseError → Prop
  | .malformed => True
  | .overlongInteger digits => .overlong digits ∈ tokens
  | .nested _ => limit < opened + tokens.countP Token.isOpening

/-- Whether the outcome of a step opens an array or object only for an opening token, and fails
only for its token. -/
def FollowsToken (limit opened : Nat) (token : Token) : Except ParseError ParseState → Prop
  | .ok next => next.opened ≤ opened + [token].countP Token.isOpening
  | .error fault => fault.IsFoundIn limit opened [token]

private theorem beginValue_followsToken (limit : Nat) (stack : List Frame) (token : Token) :
    FollowsToken limit stack.length token (beginValue limit stack token) := by
  cases token with
  | openArray | openObject =>
      by_cases tooDeep : limit ≤ stack.length
      · simp only [beginValue, tooDeep, if_true]
        exact Nat.lt_succ_of_le tooDeep
      · simp only [beginValue, tooDeep, if_false]
        exact Nat.le_refl _
  | _ => simp [beginValue, FollowsToken, ParseState.opened, ParseError.IsFoundIn]

private theorem continueAfter_followsToken (limit : Nat) (value : Json) (stack : List Frame)
    (token : Token) :
    FollowsToken limit stack.length token (continueAfter value stack token) := by
  unfold continueAfter
  split
  · exact Nat.le_add_right _ _
  · simp [FollowsToken, ParseState.opened]; omega
  · simp [FollowsToken, ParseState.opened]
  · simp [FollowsToken, ParseState.opened]; omega
  · trivial

private theorem parseStep_followsToken (limit : Nat) (state : ParseState) (token : Token) :
    FollowsToken limit state.opened token (parseStep limit state token) := by
  rcases state with ⟨stack, expectation⟩
  cases expectation with
  | value => exact beginValue_followsToken limit stack token
  | firstItem =>
      cases token with
      | closeArray => exact Nat.le_succ stack.length
      | _ => exact beginValue_followsToken limit (.array [] :: stack) _
  | firstName members =>
      cases token with
      | closeObject => exact Nat.le_succ stack.length
      | text name => exact Nat.le_refl (stack.length + 1)
      | _ => trivial
  | name members =>
      cases token with
      | text name => exact Nat.le_refl (stack.length + 1)
      | _ => trivial
  | colon members name =>
      cases token with
      | colon => exact Nat.le_refl (stack.length + 1)
      | _ => trivial
  | finished value => exact continueAfter_followsToken limit value stack token

private theorem isFoundIn_of_foldlM {limit : Nat} {state : ParseState} {tokens : List Token}
    {fault : ParseError}
    (failed : tokens.foldlM (parseStep limit) state = .error fault) :
    fault.IsFoundIn limit state.opened tokens := by
  induction tokens generalizing state with
  | nil => cases failed
  | cons token rest induction =>
      have follows := parseStep_followsToken limit state token
      rw [List.foldlM_cons] at failed
      have counted : (token :: rest).countP Token.isOpening =
          [token].countP Token.isOpening + rest.countP Token.isOpening := by
        rw [← List.countP_append, List.singleton_append]
      -- What a step opens is paid for by its token, so the bound for the rest carries over.
      cases stepped : parseStep limit state token with
      | error other =>
          rw [stepped] at follows failed
          obtain rfl : other = fault := Except.error.inj failed
          cases other with
          | malformed => trivial
          | overlongInteger digits => exact List.mem_singleton.mp follows ▸ List.mem_cons_self
          | nested isObject => exact Nat.lt_of_lt_of_le follows (by omega)
      | ok next =>
          rw [stepped] at follows failed
          have inRest := induction failed
          cases fault with
          | malformed => trivial
          | overlongInteger digits => exact List.mem_cons_of_mem token inRest
          | nested isObject =>
              simp only [ParseError.IsFoundIn, FollowsToken] at inRest follows ⊢
              omega

private theorem malformed_of_parseEnd {state : ParseState} {fault : ParseError}
    (failed : parseEnd state = .error fault) : fault = .malformed := by
  unfold parseEnd at failed
  split at failed
  · cases failed
  · exact (Except.error.inj failed).symm

/-- Whether a text exceeds a limit: it holds too many digits in a row or too many brackets. -/
def IsExcessive (limit : Nat) (chars : List Char) : Prop :=
  (∃ digits, HoldsOverlong chars digits) ∨ limit < chars.countP isOpeningBracket

theorem isExcessive_of_parseWithin {limit : Nat} {chars : List Char} {fault : ParseError}
    (failed : parseWithin limit chars = .error fault) (different : fault ≠ .malformed) :
    IsExcessive limit chars := by
  have inTokens : fault.IsFoundIn limit 0 (tokens chars) := by
    unfold parseWithin at failed
    cases run : (tokens chars).foldlM (parseStep limit) ⟨[], .value⟩ with
    | error other =>
        rw [run] at failed
        exact Except.error.inj failed ▸ isFoundIn_of_foldlM run
    | ok state =>
        rw [run] at failed
        exact absurd (malformed_of_parseEnd failed) different
  cases fault with
  | malformed => exact absurd rfl different
  | overlongInteger digits => exact Or.inl ⟨digits, holdsOverlong_of_mem_tokensFrom inTokens⟩
  | nested isObject =>
      have opening := countP_tokensFrom_le .idle chars
      simp only [ParseError.IsFoundIn, tokens] at inTokens
      exact Or.inr (by omega)

end ImportAtlas.Json
