import Hotspot.Text.Blank
import Hotspot.Text.Lowercase
import Mathlib.Data.List.Basic
import Mathlib.Data.List.TakeWhile

/-! Texts as they are compared, without blanks at their ends and in lower case. No such text
ends with a line feed, and an ASCII text keeps its letters but for their case. -/

namespace Hotspot.Text

variable {character : Char} {text before front body back : List Char} {drops : Char → Bool}

def IsCapital (character : Char) : Prop :=
  0x41 ≤ character.toNat ∧ character.toNat ≤ 0x5A

/-- The character is no blank, and its own lower case. -/
def IsFolded (character : Char) : Prop :=
  isBlank character = false ∧ character.toNat < 0x80 ∧ character.toLower = character

/-! ## Trimming -/

theorem dropWhile_eq_self (kept : ∀ character ∈ text, drops character = false) :
    text.dropWhile drops = text := by
  cases text with
  | nil => rfl
  | cons first rest =>
    rw [List.dropWhile_cons, kept first List.mem_cons_self]
    rfl

theorem trimWhere_append (dropsFront : ∀ character ∈ front, drops character = true)
    (dropsBack : ∀ character ∈ back, drops character = true)
    (kept : ∀ character ∈ body, drops character = false) :
    trimWhere drops (front ++ body ++ back) = body := by
  have keptBack : ∀ character ∈ body.reverse, drops character = false :=
    fun character member => kept character (List.mem_reverse.mp member)
  have dropsReverse : ∀ character ∈ back.reverse, drops character = true :=
    fun character member => dropsBack character (List.mem_reverse.mp member)
  rw [trimWhere, List.append_assoc, List.dropWhile_append_of_pos dropsFront,
    List.dropWhile_append, dropWhile_eq_self kept]
  split
  · rename_i empty
    rw [List.dropWhile_eq_nil_iff.mpr dropsBack, List.isEmpty_iff.mp empty]
    rfl
  · rw [List.reverse_append, List.dropWhile_append_of_pos dropsReverse,
      dropWhile_eq_self keptBack, List.reverse_reverse]

/-- Only what stands at the ends of a text is dropped. -/
theorem exists_trimWhere {α : Type} (drops : α → Bool) (text : List α) :
    ∃ front back, text = front ++ trimWhere drops text ++ back ∧
      (∀ part ∈ front, drops part = true) ∧ ∀ part ∈ back, drops part = true := by
  let rest := text.dropWhile drops
  refine ⟨text.takeWhile drops, (rest.reverse.takeWhile drops).reverse, ?_, ?_, ?_⟩
  · have ends : trimWhere drops text ++ (rest.reverse.takeWhile drops).reverse = rest := by
      rw [trimWhere, ← List.reverse_append, List.takeWhile_append_dropWhile, List.reverse_reverse]
    rw [List.append_assoc, ends, List.takeWhile_append_dropWhile]
  · exact fun part member => List.mem_takeWhile_imp member
  · exact fun part member => List.mem_takeWhile_imp (List.mem_reverse.mp member)

theorem trim_eq_self (kept : ∀ character ∈ text, isBlank character = false) : trim text = text := by
  have same := @trimWhere_append [] text [] _ (List.forall_mem_nil _) (List.forall_mem_nil _) kept
  rwa [List.nil_append, List.append_nil] at same

theorem exists_trimWhere_cons (kept : drops character = false) (text : List Char) :
    ∃ rest, trimWhere drops (character :: text) = character :: rest := by
  rcases exists_trimWhere drops (character :: text) with ⟨front, back, whole, dropped, droppedBack⟩
  have noFront : front = [] := by
    cases front with
    | nil => rfl
    | cons first front =>
      have same : character = first := (List.cons.inj whole).1
      have drop := dropped first List.mem_cons_self
      rw [← same, kept] at drop
      cases drop
  rw [noFront, List.nil_append] at whole
  cases trimmed : trimWhere drops (character :: text) with
  | nil =>
    rw [trimmed, List.nil_append] at whole
    have drop := droppedBack character (whole ▸ List.mem_cons_self)
    rw [kept] at drop
    cases drop
  | cons first rest =>
    rw [trimmed, List.cons_append] at whole
    exact ⟨rest, congrArg (· :: rest) (List.cons.inj whole).1.symm⟩

theorem isBlank_of_getLast?_trim (last : (trim text).getLast? = some character) :
    isBlank character = false := by
  rw [trim, trimWhere, List.getLast?_reverse] at last
  have kept := List.head?_dropWhile_not isBlank (text.dropWhile isBlank).reverse
  rwa [last] at kept

/-! ## Lower case -/

theorem isCapital_iff :
    IsCapital character ↔ character.val ≥ 'A'.val ∧ character.val ≤ 'Z'.val := by
  rw [ge_iff_le, UInt32.le_iff_toNat_le, UInt32.le_iff_toNat_le]
  rfl

theorem toLower_of_not_isCapital (small : ¬IsCapital character) :
    character.toLower = character :=
  dif_neg (isCapital_iff.not.mp small)

theorem toNat_toLower_of_isCapital (capital : IsCapital character) :
    character.toLower.toNat = character.toNat + 0x20 := by
  have bounds := isCapital_iff.mp capital
  have moved : character.toLower.toNat = (character.val + 0x20).toNat :=
    congrArg Char.toNat (dif_pos bounds)
  unfold IsCapital at capital
  rw [moved, UInt32.toNat_add]
  change (character.toNat + 0x20) % 2 ^ 32 = character.toNat + 0x20
  omega

theorem le_of_map? {run : CaseRun} (member : run ∈ lowercaseRuns) {point lowered : Nat}
    (mapped : run.map? point = some lowered) : 0x5B ≤ lowered := by
  have targets : lowercaseRuns.all (0x5B ≤ ·.target) = true := by
    decide +kernel
  have target := List.all_eq_true.mp targets run member
  unfold CaseRun.map? at mapped
  split at mapped
  · cases mapped
    exact Nat.le_add_right_of_le (of_decide_eq_true target)
  · cases mapped

theorem ofNat_ne_newline {point : Nat} (beyond : 0x5B ≤ point) : Char.ofNat point ≠ '\n' := by
  by_cases valid : point.isValidChar
  · have same : Char.ofNat point = Char.ofNatAux point valid := dif_pos valid
    rw [same]
    intro newline
    have value : point = 0x0A := congrArg Char.toNat newline
    omega
  · have same : Char.ofNat point = '\x00' := dif_neg valid
    rw [same]
    decide

theorem eq_newline_of_toLower (lowered : character.toLower = '\n') : character = '\n' := by
  by_cases capital : IsCapital character
  · have moved := toNat_toLower_of_isCapital capital
    rw [lowered] at moved
    exact absurd moved (Nat.ne_of_lt (Nat.lt_add_left _ (by decide)))
  · rwa [toLower_of_not_isCapital capital] at lowered

theorem eq_newline_of_mem_lowerOne (member : '\n' ∈ lowerOne character) : character = '\n' := by
  unfold lowerOne at member
  split at member
  · exact eq_newline_of_toLower (List.mem_singleton.mp member).symm
  · split at member
    · exact absurd member (by decide)
    · cases found : lowercaseRuns.findSome? (·.map? character.toNat) with
      | none =>
        rw [found] at member
        exact (List.mem_singleton.mp member).symm
      | some point =>
        rcases List.exists_of_findSome?_eq_some found with ⟨run, inside, mapped⟩
        rw [found] at member
        exact absurd (List.mem_singleton.mp member).symm
          (ofNat_ne_newline (le_of_map? inside mapped))

theorem eq_newline_of_mem_lowerAfter (member : '\n' ∈ lowerAfter before [character]) :
    character = '\n' := by
  -- A capital sigma has two forms in lower case, neither of them by way of `lowerOne`.
  rw [lowerAfter, lowerAfter, List.append_nil] at member
  split at member
  · split at member <;> exact absurd member (by decide)
  · exact eq_newline_of_mem_lowerOne member

theorem lowerAfter_ne_nil (before : List Char) (character : Char) (text : List Char) :
    lowerAfter before (character :: text) ≠ [] := by
  have forms : lowerOne character ≠ [] := by
    unfold lowerOne
    split_ifs <;> exact List.cons_ne_nil _ _
  rw [lowerAfter]
  refine List.append_ne_nil_of_left_ne_nil ?_ _
  split_ifs
  · exact List.cons_ne_nil _ _
  · exact List.cons_ne_nil _ _
  · exact forms

/-- Where a text in lower case ends with a line feed, the text does. -/
theorem getLast?_of_lowerAfter (ends : (lowerAfter before text).getLast? = some '\n') :
    text.getLast? = some '\n' := by
  induction text generalizing before with
  | nil => cases ends
  | cons first rest induction =>
    cases rest with
    | nil =>
      have newline := eq_newline_of_mem_lowerAfter (List.mem_of_getLast? ends)
      rw [newline]
      rfl
    | cons second others =>
      rw [lowerAfter, List.getLast?_append_of_ne_nil _ (lowerAfter_ne_nil _ second others)] at ends
      rw [List.getLast?_cons_cons]
      exact induction ends

theorem lowerAfter_of_ascii (ascii : ∀ character ∈ text, character.toNat < 0x80) :
    lowerAfter before text = text.map Char.toLower := by
  induction text generalizing before with
  | nil => rfl
  | cons character text induction =>
    have small := ascii character List.mem_cons_self
    have plain : ¬character.toNat = 0x3A3 := by
      omega
    rw [lowerAfter, induction fun other member => ascii other (List.mem_cons_of_mem _ member)]
    simp [plain, lowerOne, small]

/-! ## Trimming and lower case together -/

theorem getLast?_lower_trim_ne (text : List Char) : (lower (trim text)).getLast? ≠ some '\n' := by
  intro ends
  have kept := isBlank_of_getLast?_trim (getLast?_of_lowerAfter ends)
  exact absurd kept (by decide)

theorem isBlank_of_isVisible (visible : 0x21 ≤ character.toNat ∧ character.toNat ≤ 0x7E) :
    isBlank character = false := by
  simp only [isBlank, isSpace, Ranges.contains, spaceRanges, List.any_cons, List.any_nil,
    Bool.or_eq_false_iff, Bool.and_eq_false_iff, decide_eq_false_iff_not, and_true]
  omega

theorem isBlank_of_isCapital (capital : IsCapital character) : isBlank character = false :=
  isBlank_of_isVisible
    ⟨Nat.le_trans (by decide) capital.1, Nat.le_trans capital.2 (by decide)⟩

theorem ascii_of_isFolded_toLower (folded : IsFolded character.toLower) :
    isBlank character = false ∧ character.toNat < 0x80 := by
  by_cases capital : IsCapital character
  · exact ⟨isBlank_of_isCapital capital, Nat.lt_of_le_of_lt capital.2 (by decide)⟩
  · rw [toLower_of_not_isCapital capital] at folded
    exact ⟨folded.1, folded.2.1⟩

theorem lower_trim_append (blankFront : ∀ character ∈ front, isBlank character = true)
    (blankBack : ∀ character ∈ back, isBlank character = true)
    (folded : ∀ character ∈ body, IsFolded character.toLower) :
    lower (trim (front ++ body ++ back)) = body.map Char.toLower := by
  have kept : ∀ character ∈ body, isBlank character = false :=
    fun character member => (ascii_of_isFolded_toLower (folded character member)).1
  have ascii : ∀ character ∈ body, character.toNat < 0x80 :=
    fun character member => (ascii_of_isFolded_toLower (folded character member)).2
  rw [trim, trimWhere_append blankFront blankBack kept, lower, lowerAfter_of_ascii ascii]

theorem lower_trim_eq_self (folded : ∀ character ∈ text, IsFolded character) :
    lower (trim text) = text := by
  have lowered : text.map Char.toLower = text :=
    (List.map_congr_left fun character member => (folded character member).2.2).trans
      (List.map_id text)
  have small : ∀ character ∈ text, IsFolded character.toLower := fun character member => by
    rw [(folded character member).2.2]
    exact folded character member
  have same := @lower_trim_append [] text [] nofun nofun small
  rwa [List.nil_append, List.append_nil, lowered] at same

end Hotspot.Text
