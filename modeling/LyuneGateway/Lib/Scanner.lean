import Mathlib.Data.List.Infix

/-!
# Incremental scanning

A scanner cuts an unbounded input into tokens. It may answer that the input is
still too short, but it never revises an answer when more input arrives. Every
way of feeding the input in pieces therefore hands over the same tokens, as long
as nothing is fed after a refused token or a malformed one.
-/

/-- A tokenizer whose answers are stable under extension of the input. -/
structure Scanner (α ε τ : Type) where
  next : List α → Except ε (Option (τ × Nat))
  progress : ∀ {input token length}, next input = .ok (some (token, length)) →
    0 < length ∧ length ≤ input.length
  token_stable : ∀ {input token length} (more : List α),
    next input = .ok (some (token, length)) → next (input ++ more) = .ok (some (token, length))
  error_stable : ∀ {input problem} (more : List α),
    next input = .error problem → next (input ++ more) = .error problem

/-- How a scan over a finite input ends. -/
inductive Verdict (α ε : Type) where
  | more (rest : List α)
  | failed (problem : ε)
  | stopped
  deriving DecidableEq

namespace Scanner

variable {α ε τ σ : Type} (scanner : Scanner α ε τ) (handle : σ → τ → σ × Bool)

/-- Hand tokens to `handle` until it refuses one, at most `fuel` of them. -/
def foldFuel : Nat → σ → List α → σ × Verdict α ε
  | 0, state, input => (state, .more input)
  | fuel + 1, state, input =>
      match scanner.next input with
      | .error problem => (state, .failed problem)
      | .ok none => (state, .more input)
      | .ok (some (token, length)) =>
          if (handle state token).2 then
            foldFuel fuel (handle state token).1 (input.drop length)
          else ((handle state token).1, .stopped)

/-- Hand every complete token of the input to `handle`, in order. -/
def fold (state : σ) (input : List α) : σ × Verdict α ε :=
  scanner.foldFuel handle (input.length + 1) state input

/-- The tokens of an input and how the scan of it ends. -/
def tokens (input : List α) : List τ × Verdict α ε :=
  scanner.fold (fun seen token => (seen ++ [token], true)) [] input

/-- Scan an input that arrives in pieces, and keep what a piece leaves over for the next one. -/
def feed (state : σ) (rest : List α) : List (List α) → σ × Verdict α ε
  | [] => (state, .more rest)
  | piece :: pieces =>
      match scanner.fold handle state (rest ++ piece) with
      | (state, .more rest) => feed state rest pieces
      | ended => ended

variable {scanner handle}

/-- More fuel than input is as good as any amount of fuel. -/
theorem foldFuel_eq_fold {fuel : Nat} {state : σ} {input : List α} (enough : input.length < fuel) :
    scanner.foldFuel handle fuel state input = scanner.fold handle state input := by
  suffices agree : ∀ (first second : Nat) (state : σ) (input : List α), input.length < first →
      input.length < second →
      scanner.foldFuel handle first state input = scanner.foldFuel handle second state input from
    agree _ _ _ _ enough (Nat.lt_succ_self _)
  intro first
  induction first with
  | zero => intro second state input short; omega
  | succ first ih =>
      intro second state input short long
      cases second with
      | zero => omega
      | succ second =>
          simp only [foldFuel]
          cases scanned : scanner.next input with
          | error problem => rfl
          | ok answer =>
              cases answer with
              | none => rfl
              | some token =>
                  rcases token with ⟨token, length⟩
                  have progress := scanner.progress scanned
                  simp only
                  split
                  · apply ih <;> simp only [List.length_drop] <;> omega
                  · rfl

theorem fold_of_error {state : σ} {input : List α} {problem : ε}
    (scanned : scanner.next input = .error problem) :
    scanner.fold handle state input = (state, .failed problem) := by
  simp [fold, foldFuel, scanned]

theorem fold_of_none {state : σ} {input : List α} (scanned : scanner.next input = .ok none) :
    scanner.fold handle state input = (state, .more input) := by
  simp [fold, foldFuel, scanned]

theorem fold_of_refused {state : σ} {input : List α} {token : τ} {length : Nat}
    (scanned : scanner.next input = .ok (some (token, length)))
    (refused : (handle state token).2 = false) :
    scanner.fold handle state input = ((handle state token).1, .stopped) := by
  simp [fold, foldFuel, scanned, refused]

theorem fold_of_accepted {state : σ} {input : List α} {token : τ} {length : Nat}
    (scanned : scanner.next input = .ok (some (token, length)))
    (accepted : (handle state token).2 = true) :
    scanner.fold handle state input =
      scanner.fold handle (handle state token).1 (input.drop length) := by
  have progress := scanner.progress scanned
  have enough : (input.drop length).length < input.length := by
    rw [List.length_drop]
    omega
  rw [← foldFuel_eq_fold enough]
  simp [fold, foldFuel, scanned, accepted]

/-- Induction along a scan: one case for each way it goes on or ends. -/
theorem fold_induction {motive : σ → List α → Prop}
    (error : ∀ state input problem, scanner.next input = .error problem → motive state input)
    (incomplete : ∀ state input, scanner.next input = .ok none → motive state input)
    (refused : ∀ state input token length, scanner.next input = .ok (some (token, length)) →
      (handle state token).2 = false → motive state input)
    (accepted : ∀ state input token length, scanner.next input = .ok (some (token, length)) →
      (handle state token).2 = true →
      motive (handle state token).1 (input.drop length) → motive state input)
    (state : σ) (input : List α) : motive state input := by
  induction size : input.length using Nat.strong_induction_on generalizing state input with
  | _ size ih =>
      cases scanned : scanner.next input with
      | error problem => exact error state input problem scanned
      | ok answer =>
          cases answer with
          | none => exact incomplete state input scanned
          | some token =>
              rcases token with ⟨token, length⟩
              have progress := scanner.progress scanned
              cases verdict : (handle state token).2 with
              | false => exact refused state input token length scanned verdict
              | true =>
                  refine accepted state input token length scanned verdict
                    (ih (input.drop length).length ?_ _ _ rfl)
                  rw [List.length_drop]
                  omega

/-- A scan hands some tokens to the handler, one after the other. -/
theorem fold_handles (state : σ) (input : List α) :
    ∃ tokens : List τ, (scanner.fold handle state input).1 =
      tokens.foldl (fun state token => (handle state token).1) state := by
  induction state, input using @fold_induction _ _ _ _ scanner handle with
  | error state input problem scanned => exact ⟨[], by rw [fold_of_error scanned]; rfl⟩
  | incomplete state input scanned => exact ⟨[], by rw [fold_of_none scanned]; rfl⟩
  | refused state input token length scanned verdict =>
      exact ⟨[token], by rw [fold_of_refused scanned verdict]; rfl⟩
  | accepted state input token length scanned verdict ih =>
      obtain ⟨tokens, handled⟩ := ih
      exact ⟨token :: tokens, by rw [fold_of_accepted scanned verdict, handled]; rfl⟩

/-- What is left over is too short to decide anything. -/
theorem next_rest {state final : σ} {input rest : List α}
    (scan : scanner.fold handle state input = (final, .more rest)) :
    scanner.next rest = .ok none := by
  induction state, input using @fold_induction _ _ _ _ scanner handle with
  | error state input problem scanned => simp [fold_of_error scanned] at scan
  | incomplete state input scanned =>
      rw [fold_of_none scanned] at scan
      cases scan
      exact scanned
  | refused state input token length scanned verdict =>
      simp [fold_of_refused scanned verdict] at scan
  | accepted state input token length scanned verdict ih =>
      rw [fold_of_accepted scanned verdict] at scan
      exact ih scan

/-- Continuing a scan with more input is scanning the concatenation. -/
theorem fold_append {state final : σ} {input rest : List α}
    (scan : scanner.fold handle state input = (final, .more rest)) (more : List α) :
    scanner.fold handle state (input ++ more) = scanner.fold handle final (rest ++ more) := by
  induction state, input using @fold_induction _ _ _ _ scanner handle with
  | error state input problem scanned => simp [fold_of_error scanned] at scan
  | incomplete state input scanned =>
      rw [fold_of_none scanned] at scan
      cases scan
      rfl
  | refused state input token length scanned verdict =>
      simp [fold_of_refused scanned verdict] at scan
  | accepted state input token length scanned verdict ih =>
      have progress := scanner.progress scanned
      rw [fold_of_accepted scanned verdict] at scan
      rw [fold_of_accepted (scanner.token_stable more scanned) verdict, ← ih scan,
        List.drop_append_of_le_length progress.2]

/-- A scan that ended early ends the same way on every longer input. -/
theorem fold_append_of_ended {state final : σ} {input : List α} {verdict : Verdict α ε}
    (scan : scanner.fold handle state input = (final, verdict))
    (ended : ∀ rest, verdict ≠ .more rest) (more : List α) :
    scanner.fold handle state (input ++ more) = (final, verdict) := by
  induction state, input using @fold_induction _ _ _ _ scanner handle with
  | error state input problem scanned =>
      rw [fold_of_error scanned] at scan
      rw [fold_of_error (scanner.error_stable more scanned), scan]
  | incomplete state input scanned =>
      rw [fold_of_none scanned] at scan
      cases scan
      exact absurd rfl (ended input)
  | refused state input token length scanned refusal =>
      rw [fold_of_refused scanned refusal] at scan
      rw [fold_of_refused (scanner.token_stable more scanned) refusal, scan]
  | accepted state input token length scanned acceptance ih =>
      have progress := scanner.progress scanned
      rw [fold_of_accepted scanned acceptance] at scan
      rw [fold_of_accepted (scanner.token_stable more scanned) acceptance,
        List.drop_append_of_le_length progress.2]
      exact ih scan

/-- The pieces of an input do not matter. -/
theorem feed_eq_fold {state : σ} {rest : List α} {pieces : List (List α)}
    (short : scanner.next rest = .ok none) :
    scanner.feed handle state rest pieces = scanner.fold handle state (rest ++ pieces.flatten) := by
  induction pieces generalizing state rest with
  | nil =>
      rw [List.flatten_nil, List.append_nil, fold_of_none short]
      rfl
  | cons piece pieces ih =>
      rw [feed, List.flatten_cons, ← List.append_assoc]
      rcases scan : scanner.fold handle state (rest ++ piece) with ⟨final, verdict⟩
      cases verdict with
      | more leftover =>
          rw [fold_append scan]
          exact ih (next_rest scan)
      | failed problem => rw [fold_append_of_ended scan nofun]
      | stopped => rw [fold_append_of_ended scan nofun]

theorem fold_collect (seen : List τ) (input : List α) :
    scanner.fold (fun seen token => (seen ++ [token], true)) seen input =
      (seen ++ (scanner.tokens input).1, (scanner.tokens input).2) := by
  induction (), input using @fold_induction _ _ _ _ scanner fun (_ : Unit) _ => ((), true)
    generalizing seen with
  | error _ input problem scanned =>
      rw [tokens, fold_of_error scanned, fold_of_error scanned, List.append_nil]
  | incomplete _ input scanned =>
      rw [tokens, fold_of_none scanned, fold_of_none scanned, List.append_nil]
  | refused _ input token length scanned verdict => cases verdict
  | accepted _ input token length scanned verdict ih =>
      rw [tokens, fold_of_accepted scanned rfl, fold_of_accepted scanned rfl]
      simp only [ih, List.nil_append, List.append_assoc]

theorem tokens_of_next {input : List α} {token : τ} {length : Nat}
    (scanned : scanner.next input = .ok (some (token, length))) :
    scanner.tokens input =
      (token :: (scanner.tokens (input.drop length)).1, (scanner.tokens (input.drop length)).2) := by
  rw [tokens, fold_of_accepted scanned rfl, fold_collect]
  rfl

/-- More input adds tokens after those that are there. -/
theorem tokens_append_of_more {input rest : List α} {found : List τ}
    (scan : scanner.tokens input = (found, .more rest)) (more : List α) :
    scanner.tokens (input ++ more) =
      (found ++ (scanner.tokens (rest ++ more)).1, (scanner.tokens (rest ++ more)).2) := by
  rw [tokens, fold_append scan, fold_collect]

theorem tokens_prefix_append (input more : List α) :
    (scanner.tokens input).1 <+: (scanner.tokens (input ++ more)).1 := by
  rcases scan : scanner.tokens input with ⟨found, verdict⟩
  cases verdict with
  | more rest =>
      rw [tokens_append_of_more scan]
      exact List.prefix_append _ _
  | failed problem =>
      rw [tokens, fold_append_of_ended scan nofun]
  | stopped => rw [tokens, fold_append_of_ended scan nofun]

/-- A handler that keeps the tokens it is given has those of a scan that went through, followed by
what is left over, in the place of the input. -/
theorem fold_covers {bytes : τ → List α} {seen : σ → List τ}
    (cut : ∀ input token length, scanner.next input = .ok (some (token, length)) →
      input.take length = bytes token)
    (keeps : ∀ state token, seen (handle state token).1 = seen state ++ [token])
    {state final : σ} {input : List α} {verdict : Verdict α ε}
    (scan : scanner.fold handle state input = (final, verdict)) :
    (∀ rest, verdict = .more rest →
      (seen final).flatMap bytes ++ rest = (seen state).flatMap bytes ++ input) ∧
    (seen final).flatMap bytes <+: (seen state).flatMap bytes ++ input := by
  have took {state : σ} {input : List α} {token : τ} {length : Nat}
      (scanned : scanner.next input = .ok (some (token, length))) :
      (seen (handle state token).1).flatMap bytes ++ input.drop length =
        (seen state).flatMap bytes ++ input := by
    rw [keeps, List.flatMap_append, List.flatMap_singleton, List.append_assoc,
      ← cut input token length scanned, List.take_append_drop]
  induction state, input using @fold_induction _ _ _ _ scanner handle with
  | error state input problem scanned =>
      rw [fold_of_error scanned] at scan
      cases scan
      exact ⟨nofun, List.prefix_append _ _⟩
  | incomplete state input scanned =>
      rw [fold_of_none scanned] at scan
      cases scan
      refine ⟨fun rest same => ?_, List.prefix_append _ _⟩
      cases same
      rfl
  | refused state input token length scanned refusal =>
      rw [fold_of_refused scanned refusal] at scan
      cases scan
      exact ⟨nofun, _, took scanned⟩
  | accepted state input token length scanned acceptance ih =>
      rw [fold_of_accepted scanned acceptance] at scan
      rw [← took scanned]
      exact ih scan

end Scanner
