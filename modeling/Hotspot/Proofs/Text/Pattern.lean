import Hotspot.Text.Pattern
import Mathlib.Data.List.Basic

/-! Ways of matching a pattern, by its constructors. Whatever the pattern, a match moves over a
row of characters that lies ahead, and a group holds the row that its body moved over. -/

namespace Hotspot.Text

variable {before middle after : Matching} {read later held : List Char} {ranges : Ranges}
  {pattern first second body : Pattern} {count number : Nat}

namespace Matching

/-- The match goes on from `before` to `after` over the characters that lie ahead. -/
structure Passes (before : Matching) (read : List Char) (after : Matching) : Prop where
  rest : before.rest = read ++ after.rest
  front : after.front = before.front ++ read

theorem Passes.refl (before : Matching) : before.Passes [] before :=
  ⟨rfl, before.front.append_nil.symm⟩

theorem Passes.trans (earlier : before.Passes read middle) (next : middle.Passes later after) :
    before.Passes (read ++ later) after where
  rest := by rw [earlier.rest, next.rest, List.append_assoc]
  front := by rw [next.front, earlier.front, List.append_assoc]

theorem Passes.hold (passes : before.Passes read after) (number : Nat) (held : List Char) :
    before.Passes read (after.hold number held) :=
  ⟨passes.rest, passes.front⟩

theorem passes_advance (ahead : read <+: before.rest) :
    before.Passes read (before.advance read) where
  rest := by
    rcases ahead with ⟨rest, ahead⟩
    rw [advance, ← ahead, List.drop_left]
  front := rfl

theorem advance_nil (before : Matching) : before.advance [] = before := by
  rw [advance, List.append_nil]
  rfl

theorem advance_advance (before : Matching) (read later : List Char) :
    (before.advance read).advance later = before.advance (read ++ later) := by
  simp [advance]

theorem prefix_append_iff :
    read ++ later <+: before.rest ↔
      read <+: before.rest ∧ later <+: (before.advance read).rest := by
  constructor
  · rintro ⟨rest, ahead⟩
    rw [List.append_assoc] at ahead
    refine ⟨⟨later ++ rest, ahead⟩, rest, ?_⟩
    rw [advance, ← ahead, List.drop_left]
  · rintro ⟨⟨rest, ahead⟩, inside⟩
    rw [advance, ← ahead, List.drop_left] at inside
    rw [← ahead]
    exact (List.prefix_append_right_inj read).mpr inside

end Matching

namespace Pattern

theorem mem_run_start : after ∈ start.run before ↔ before.front = [] ∧ after = before := by
  rw [run]
  split <;> simp [*]

theorem mem_run_finish :
    after ∈ finish.run before ↔ (before.rest = [] ∨ before.rest = ['\n']) ∧ after = before := by
  rw [run]
  split <;> simp [*]

theorem mem_run_oneOf :
    after ∈ (oneOf ranges).run before ↔
      ∃ character, ranges.contains character = true ∧ [character] <+: before.rest ∧
        after = before.advance [character] := by
  rw [run]
  split
  · rename_i character rest ahead
    split <;> simp_all
  · rename_i ahead
    simp [ahead]

theorem mem_run_optional :
    after ∈ (optional body).run before ↔ after ∈ body.run before ∨ after = before := by
  rw [run, List.mem_append, List.mem_singleton]

theorem mem_run_andThen :
    after ∈ (andThen first second).run before ↔
      ∃ middle ∈ first.run before, after ∈ second.run middle := by
  rw [run, List.mem_flatMap]

theorem mem_run_times_zero : after ∈ (times 0 body).run before ↔ after = before :=
  List.mem_singleton

theorem mem_run_times_succ :
    after ∈ (times (count + 1) body).run before ↔
      ∃ middle ∈ (times count body).run before, after ∈ body.run middle :=
  List.mem_flatMap

theorem mem_run_sameAs (holds : before.groups.lookup number = some held) :
    after ∈ (sameAs number).run before ↔ held <+: before.rest ∧ after = before.advance held := by
  rw [run, holds]
  simp only [List.isPrefixOf_iff_prefix]
  split <;> simp [*]

theorem exists_passes_of_mem_run (matched : after ∈ pattern.run before) :
    ∃ read, before.Passes read after := by
  induction pattern generalizing before after with
  | start => exact ⟨[], (mem_run_start.mp matched).2 ▸ .refl before⟩
  | finish => exact ⟨[], (mem_run_finish.mp matched).2 ▸ .refl before⟩
  | oneOf ranges =>
    rcases mem_run_oneOf.mp matched with ⟨character, _, ahead, rfl⟩
    exact ⟨[character], Matching.passes_advance ahead⟩
  | optional body induction =>
    rcases mem_run_optional.mp matched with inner | rfl
    · exact induction inner
    · exact ⟨[], .refl after⟩
  | andThen first second induction later =>
    rcases mem_run_andThen.mp matched with ⟨middle, reached, matched⟩
    rcases induction reached with ⟨read, passes⟩
    rcases later matched with ⟨others, passesOn⟩
    exact ⟨read ++ others, passes.trans passesOn⟩
  | times count body induction =>
    -- The turns of a repetition, one after the other.
    induction count generalizing after with
    | zero => exact ⟨[], mem_run_times_zero.mp matched ▸ .refl before⟩
    | succ count turns =>
      rcases mem_run_times_succ.mp matched with ⟨middle, reached, matched⟩
      rcases turns reached with ⟨read, passes⟩
      rcases induction matched with ⟨others, passesOn⟩
      exact ⟨read ++ others, passes.trans passesOn⟩
  | group number body induction =>
    rcases List.mem_map.mp matched with ⟨inner, reached, rfl⟩
    rcases induction reached with ⟨read, passes⟩
    exact ⟨read, passes.hold number _⟩
  | sameAs number =>
    cases holds : before.groups.lookup number with
    | none =>
      rw [run, holds] at matched
      cases matched
    | some held =>
      rcases (mem_run_sameAs holds).mp matched with ⟨ahead, rfl⟩
      exact ⟨held, Matching.passes_advance ahead⟩

/-- A group holds what its body moved over. -/
theorem mem_run_group :
    after ∈ (group number body).run before ↔
      ∃ inner ∈ body.run before, ∃ read, before.Passes read inner ∧
        after = inner.hold number read := by
  rw [run, List.mem_map]
  constructor
  · rintro ⟨inner, reached, rfl⟩
    rcases exists_passes_of_mem_run reached with ⟨read, passes⟩
    exact ⟨inner, reached, read, passes, by rw [passes.front, List.drop_left]⟩
  · rintro ⟨inner, reached, read, passes, rfl⟩
    exact ⟨inner, reached, by rw [passes.front, List.drop_left]⟩

theorem isMatchedBy_iff {text : List Char} :
    pattern.isMatchedBy text = true ↔
      ∃ after, after ∈ pattern.run { front := [], rest := text } := by
  rw [isMatchedBy, Bool.not_eq_true', List.isEmpty_eq_false_iff_exists_mem]

end Pattern

end Hotspot.Text
