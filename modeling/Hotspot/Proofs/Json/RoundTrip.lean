import Hotspot.Json.Parser
import Hotspot.Proofs.Json.Atoms
import Mathlib.Data.List.Nodup

/-! Printing and reading of JSON texts. The printed form of a value without
floating point numbers and byte strings reads back as the value, in every
layout that sets its parts apart by separators only. -/

namespace Hotspot

/-! ## Values with a printed form of their own -/

mutual

/-- The value holds no floating point numbers and no byte strings, and no
object in it has two fields of one name. -/
def Value.IsPlain : Value → Prop
  | .float _ | .bytes _ => False
  | .list items => ArePlain items
  | .object fields => (fields.map Prod.fst).Nodup ∧ HavePlain fields
  | _ => True

def ArePlain : List Value → Prop
  | [] => True
  | item :: rest => item.IsPlain ∧ ArePlain rest

def HavePlain : List (String × Value) → Prop
  | [] => True
  | (_, value) :: rest => value.IsPlain ∧ HavePlain rest

end

namespace Json

/-- Only separators set the parts of lists and objects apart. -/
structure Layout.IsBlank (layout : Layout) : Prop where
  lineBreak : ∀ depth, ∀ character ∈ layout.lineBreak depth, isSeparator character = true
  afterName : ∃ gap, layout.afterName = ':' :: gap ∧
    ∀ character ∈ gap, isSeparator character = true

theorem Layout.isBlank_compact : Layout.compact.IsBlank where
  lineBreak := by simp [Layout.compact]
  afterName := ⟨[], rfl, by simp⟩

theorem Layout.isBlank_indented : Layout.indented.IsBlank where
  lineBreak := by
    intro depth character member
    rcases List.mem_cons.mp member with rfl | space
    · decide
    · rw [List.eq_of_mem_replicate space]
      decide
  afterName := ⟨[' '], rfl, by simp [isSeparator]⟩

/-! ## From characters to tokens -/

mutual

def valueTokens : Value → List Token
  | .text value => [.text (Text.codePoints value)]
  | .list items => .openList :: (itemTokens items ++ [.closeList])
  | .object fields => .openObject :: (fieldTokens fields ++ [.closeObject])
  | value => [.atom value]

def itemTokens : List Value → List Token
  | [] => []
  | [item] => valueTokens item
  | item :: rest => valueTokens item ++ .comma :: itemTokens rest

def fieldTokens : List (String × Value) → List Token
  | [] => []
  | [(name, value)] => .text (Text.codePoints name) :: .colon :: valueTokens value
  | (name, value) :: rest =>
    .text (Text.codePoints name) :: .colon :: valueTokens value ++ .comma :: fieldTokens rest

end

section

variable {layout : Layout} (blank : layout.IsBlank)
include blank

theorem endsAtom_lineBreak (depth : Nat) {rest : List Char} (ends : EndsAtom rest) :
    EndsAtom (layout.lineBreak depth ++ rest) :=
  endsAtom_append (blank.lineBreak depth) ends

theorem read_name (tokens : List Token) (depth : Nat) (name : String) (rest : List Char) :
    ({ tokens } : Lexer).read
        (layout.lineBreak depth ++ quotedText name.toList ++ layout.afterName ++ rest) =
      ({ tokens := .colon :: .text (Text.codePoints name) :: tokens } : Lexer).read rest := by
  rcases blank.afterName with ⟨gap, shape, separators⟩
  simp only [shape, List.append_assoc, List.cons_append]
  rw [read_separators tokens (blank.lineBreak depth), read_quotedText,
    Lexer.read_of_step { tokens := .colon :: .text (Text.codePoints name) :: tokens } (by rfl),
    read_separators _ separators]

mutual

theorem read_render (depth : Nat) (tokens : List Token) {rest : List Char}
    (ends : EndsAtom rest) : ∀ value : Value, value.IsPlain →
      ({ tokens } : Lexer).read (render layout depth value ++ rest) =
        ({ tokens := (valueTokens value).reverse ++ tokens } : Lexer).read rest
  | .null, _ => by
    rw [render]
    exact read_atom tokens (by rfl) (by decide) (List.all_eq_true.mp (by decide)) ends
  | .bool true, _ => by
    rw [render, if_pos rfl]
    exact read_atom tokens (by rfl) (by decide) (List.all_eq_true.mp (by decide)) ends
  | .bool false, _ => by
    rw [render, if_neg (by decide)]
    exact read_atom tokens (by rfl) (by decide) (List.all_eq_true.mp (by decide)) ends
  | .integer number, _ =>
    read_atom tokens (atom?_signedDecimal number) (Text.signedDecimal_ne_nil number)
      (fun _ => isAtomCharacter_of_mem_signedDecimal) ends
  | .text text, _ => by
    rw [render, read_quotedText]
    rfl
  | .float _, plain => plain.elim
  | .bytes _, plain => plain.elim
  | .list [], _ => by
    simp only [render, List.cons_append, List.nil_append]
    rw [Lexer.read_of_step { tokens := .openList :: tokens } (by rfl),
      Lexer.read_of_step { tokens := .closeList :: .openList :: tokens } (by rfl)]
    rfl
  | .list (first :: others), plain => by
    have ends : EndsAtom (']' :: rest) := endsAtom_cons (by decide) rest
    simp only [render, List.cons_append, List.append_assoc, List.nil_append]
    rw [Lexer.read_of_step { tokens := .openList :: tokens } (by rfl),
      read_renderItems (depth + 1) _ (endsAtom_lineBreak blank depth ends) (first :: others) plain,
      read_separators _ (blank.lineBreak depth),
      Lexer.read_of_step { tokens := .closeList :: _ } (by rfl)]
    simp [valueTokens]
  | .object [], _ => by
    simp only [render, List.cons_append, List.nil_append]
    rw [Lexer.read_of_step { tokens := .openObject :: tokens } (by rfl),
      Lexer.read_of_step { tokens := .closeObject :: .openObject :: tokens } (by rfl)]
    rfl
  | .object (first :: others), plain => by
    have ends : EndsAtom ('\x7d' :: rest) := endsAtom_cons (by decide) rest
    simp only [render, List.cons_append, List.append_assoc, List.nil_append]
    rw [Lexer.read_of_step { tokens := .openObject :: tokens } (by rfl),
      read_renderFields (depth + 1) _ (endsAtom_lineBreak blank depth ends) (first :: others)
        plain.2,
      read_separators _ (blank.lineBreak depth),
      Lexer.read_of_step { tokens := .closeObject :: _ } (by rfl)]
    simp [valueTokens]

theorem read_renderItems (depth : Nat) (tokens : List Token) {rest : List Char}
    (ends : EndsAtom rest) : ∀ items : List Value, ArePlain items →
      ({ tokens } : Lexer).read (renderItems layout depth items ++ rest) =
        ({ tokens := (itemTokens items).reverse ++ tokens } : Lexer).read rest
  | [], _ => rfl
  | [item], plain => by
    rw [renderItems, List.append_assoc, read_separators tokens (blank.lineBreak depth),
      read_render depth tokens ends item plain.1]
    rfl
  | item :: next :: others, plain => by
    have separated : EndsAtom (',' :: (renderItems layout depth (next :: others) ++ rest)) :=
      endsAtom_cons (by decide) _
    simp only [renderItems, List.append_assoc, List.cons_append]
    rw [read_separators tokens (blank.lineBreak depth),
      read_render depth tokens separated item plain.1,
      Lexer.read_of_step { tokens := .comma :: _ } (by rfl),
      read_renderItems depth _ ends (next :: others) plain.2]
    simp [itemTokens]

theorem read_renderFields (depth : Nat) (tokens : List Token) {rest : List Char}
    (ends : EndsAtom rest) : ∀ fields : List (String × Value), HavePlain fields →
      ({ tokens } : Lexer).read (renderFields layout depth fields ++ rest) =
        ({ tokens := (fieldTokens fields).reverse ++ tokens } : Lexer).read rest
  | [], _ => rfl
  | [(name, value)], plain => by
    rw [renderFields, List.append_assoc, read_name blank,
      read_render depth _ ends value plain.1]
    simp [fieldTokens]
  | (name, value) :: next :: others, plain => by
    have separated : EndsAtom (',' :: (renderFields layout depth (next :: others) ++ rest)) :=
      endsAtom_cons (by decide) _
    rw [renderFields.eq_3 layout depth name value (next :: others) (by simp), List.append_assoc,
      List.append_assoc, List.cons_append, read_name blank]
    rw [read_render depth _ separated value plain.1,
      Lexer.read_of_step { tokens := .comma :: _ } (by rfl),
      read_renderFields depth _ ends (next :: others) plain.2]
    simp [fieldTokens]

end

end

theorem tokens?_print {layout : Layout} (blank : layout.IsBlank) {value : Value}
    (plain : value.IsPlain) : tokens? (print layout value) = some (valueTokens value) := by
  have read := read_render blank 0 [] endsAtom_nil value plain
  rw [List.append_nil, List.append_nil] at read
  rw [tokens?_eq_read, print, read]
  simp [Lexer.read, Lexer.finish]

/-! ## From tokens to values -/

mutual

def valueNode : Value → Node
  | .text value => .text (Text.codePoints value)
  | .list items => .list (itemNodes items)
  | .object fields => .object (fieldNodes fields)
  | value => .value value

def itemNodes : List Value → List Node
  | [] => []
  | item :: rest => valueNode item :: itemNodes rest

def fieldNodes : List (String × Value) → Members
  | [] => []
  | (name, value) :: rest => (Text.codePoints name, valueNode value) :: fieldNodes rest

end

mutual

theorem value?_valueNode : ∀ value : Value, (valueNode value).value? = some value
  | .null | .bool _ | .integer _ | .float _ | .bytes _ => rfl
  | .text text => by simp [valueNode, Node.value?]
  | .list items => by simp [valueNode, Node.value?, itemValues?_itemNodes items]
  | .object fields => by simp [valueNode, Node.value?, memberValues?_fieldNodes fields]

theorem itemValues?_itemNodes : ∀ items : List Value,
    Node.itemValues? (itemNodes items) = some items
  | [] => rfl
  | item :: rest => by
    simp [itemNodes, Node.itemValues?, value?_valueNode item, itemValues?_itemNodes rest]

theorem memberValues?_fieldNodes : ∀ fields : List (String × Value),
    Node.memberValues? (fieldNodes fields) = some fields
  | [] => rfl
  | (name, value) :: rest => by
    simp [fieldNodes, Node.memberValues?, value?_valueNode value, memberValues?_fieldNodes rest]

end

theorem map_fst_fieldNodes (fields : List (String × Value)) :
    (fieldNodes fields).map Prod.fst = (fields.map Prod.fst).map Text.codePoints := by
  induction fields with
  | nil => rfl
  | cons field rest induction => simp [fieldNodes, induction]

def Parsing.read (parsing : Parsing) (tokens : List Token) : Option Parsing :=
  tokens.foldlM Parsing.step parsing

theorem Parsing.read_of_step {parsing next : Parsing} {token : Token}
    (steps : parsing.step token = some next) (tokens : List Token) :
    parsing.read (token :: tokens) = next.read tokens := by
  simp [Parsing.read, steps]

theorem read_firstItem (frames : List Frame) (value : Value) (rest : List Token) :
    (Parsing.awaitFirstItem frames).read (valueTokens value ++ rest) =
      (Parsing.awaitValue (.item [] :: frames)).read (valueTokens value ++ rest) := by
  cases value <;> rfl

theorem putEntry_of_not_mem {members : Members} {name : List Nat} (node : Node)
    (fresh : name ∉ members.map Prod.fst) :
    putEntry members name node = members ++ [(name, node)] := by
  induction members with
  | nil => rfl
  | cons member rest induction =>
    rw [List.map_cons, List.mem_cons, not_or] at fresh
    rw [putEntry, if_neg (Ne.symm fresh.1), induction fresh.2]
    rfl

theorem name_not_mem_before {before others : Members} {name : List Nat} {node : Node}
    (distinct : ((before ++ (name, node) :: others).map Prod.fst).Nodup) :
    name ∉ before.map Prod.fst := by
  intro member
  rw [List.map_append, List.map_cons] at distinct
  exact (List.nodup_append.mp distinct).2.2 name member name List.mem_cons_self rfl

mutual

theorem read_valueTokens (frames : List Frame) (rest : List Token) :
    ∀ value : Value, value.IsPlain →
      (Parsing.awaitValue frames).read (valueTokens value ++ rest) =
        (Parsing.complete (valueNode value) frames).read rest
  | .null, _ | .bool _, _ | .integer _, _ | .text _, _ => Parsing.read_of_step (by rfl) rest
  | .float _, plain => plain.elim
  | .bytes _, plain => plain.elim
  | .list [], _ => by
    simp only [valueTokens, itemTokens, List.nil_append, List.cons_append]
    rw [Parsing.read_of_step (by rfl), Parsing.read_of_step (by rfl)]
    rfl
  | .list (first :: others), plain => by
    have items := read_itemTokens [] frames rest (first :: others) (by simp) plain
    have opened : (Parsing.awaitFirstItem frames).read
        (itemTokens (first :: others) ++ .closeList :: rest) =
          (Parsing.awaitValue (.item [] :: frames)).read
            (itemTokens (first :: others) ++ .closeList :: rest) := by
      cases others with
      | nil => exact read_firstItem frames first _
      | cons next others =>
        simp only [itemTokens, List.append_assoc]
        exact read_firstItem frames first _
    simp only [valueTokens, valueNode, List.cons_append, List.append_assoc, List.nil_append]
    rw [Parsing.read_of_step (by rfl), opened, items]
    simp
  | .object [], _ => by
    simp only [valueTokens, fieldTokens, List.nil_append, List.cons_append]
    rw [Parsing.read_of_step (by rfl), Parsing.read_of_step (by rfl)]
    rfl
  | .object (first :: others), plain => by
    have distinct : ((fieldNodes (first :: others)).map Prod.fst).Nodup := by
      rw [map_fst_fieldNodes]
      exact List.Nodup.map Text.codePoints_injective plain.1
    have fields := read_fieldTokens [] frames rest (first :: others) (by simp)
      (by simpa using distinct) plain.2
    have opened : (Parsing.awaitFirstName frames).read
        (fieldTokens (first :: others) ++ .closeObject :: rest) =
          (Parsing.awaitName [] frames).read
            (fieldTokens (first :: others) ++ .closeObject :: rest) := by
      cases others <;> rfl
    simp only [valueTokens, valueNode, List.cons_append, List.append_assoc, List.nil_append]
    rw [Parsing.read_of_step (by rfl), opened, fields]
    simp

theorem read_itemTokens (before : List Node) (frames : List Frame) (rest : List Token) :
    ∀ items : List Value, items ≠ [] → ArePlain items →
      (Parsing.awaitValue (.item before :: frames)).read
          (itemTokens items ++ .closeList :: rest) =
        (Parsing.complete (.list (before.reverse ++ itemNodes items)) frames).read rest
  | [], nonempty, _ => absurd rfl nonempty
  | [item], _, plain => by
    rw [itemTokens, read_valueTokens _ _ item plain.1, Parsing.read_of_step (by rfl)]
    simp [itemNodes]
  | item :: next :: others, _, plain => by
    simp only [itemTokens, List.append_assoc, List.cons_append]
    rw [read_valueTokens _ _ item plain.1, Parsing.read_of_step (by rfl),
      read_itemTokens (valueNode item :: before) frames rest (next :: others) (by simp) plain.2]
    simp [itemNodes]

theorem read_fieldTokens (before : Members) (frames : List Frame) (rest : List Token) :
    ∀ fields : List (String × Value), fields ≠ [] →
      ((before ++ fieldNodes fields).map Prod.fst).Nodup → HavePlain fields →
      (Parsing.awaitName before frames).read (fieldTokens fields ++ .closeObject :: rest) =
        (Parsing.complete (.object (before ++ fieldNodes fields)) frames).read rest
  | [], nonempty, _, _ => absurd rfl nonempty
  | [(name, value)], _, distinct, plain => by
    have fresh := name_not_mem_before distinct
    simp only [fieldTokens, List.cons_append]
    rw [Parsing.read_of_step (by rfl), Parsing.read_of_step (by rfl),
      read_valueTokens _ _ value plain.1, Parsing.read_of_step (by rfl),
      putEntry_of_not_mem _ fresh]
    rfl
  | (name, value) :: next :: others, _, distinct, plain => by
    have fresh := name_not_mem_before distinct
    have later : (((before ++ [(Text.codePoints name, valueNode value)]) ++
        fieldNodes (next :: others)).map Prod.fst).Nodup := by
      simpa [fieldNodes] using distinct
    simp only [fieldTokens, List.cons_append, List.append_assoc]
    rw [Parsing.read_of_step (by rfl), Parsing.read_of_step (by rfl),
      read_valueTokens _ _ value plain.1, Parsing.read_of_step (by rfl),
      putEntry_of_not_mem _ fresh,
      read_fieldTokens _ frames rest (next :: others) (by simp) later plain.2]
    simp [fieldNodes]

end

theorem ofTokens?_valueTokens {value : Value} (plain : value.IsPlain) :
    ofTokens? (valueTokens value) = some (valueNode value) := by
  have read := read_valueTokens [] [] value plain
  rw [List.append_nil] at read
  unfold Parsing.read at read
  simp [ofTokens?, read, Parsing.finish]

theorem parse?_print {layout : Layout} (blank : layout.IsBlank) {value : Value}
    (plain : value.IsPlain) : parse? (print layout value) = some value := by
  simp [parse?, node?, tokens?_print blank plain, ofTokens?_valueTokens plain, value?_valueNode]

/-- A value that was printed in UTF-8 reads back. -/
theorem ofUtf8?_print {layout : Layout} (blank : layout.IsBlank) {value : Value}
    (plain : value.IsPlain) :
    ofUtf8? (Text.encodeUtf8 (print layout value)) = some value := by
  have parsed := parse?_print blank plain
  unfold parse? at parsed
  simp only [ofUtf8?, nodeOfUtf8?, Text.decodeUtf8?_encodeUtf8, Option.bind_eq_bind,
    Option.bind_some]
  exact parsed

end Json

end Hotspot
