namespace Hotspot.Text

/-! Upper case as far as it leads to ASCII. The table holds every character
beyond ASCII whose full Unicode upper-case form is ASCII; other characters
beyond ASCII stay as they are, so a text in upper case equals an ASCII word
exactly when its full upper-case form does. -/

def upperOne (character : Char) : List Char :=
  match character with
  | 'ß' => ['S', 'S']
  | 'ı' => ['I']
  | 'ſ' => ['S']
  | 'ﬀ' => ['F', 'F']
  | 'ﬁ' => ['F', 'I']
  | 'ﬂ' => ['F', 'L']
  | 'ﬃ' => ['F', 'F', 'I']
  | 'ﬄ' => ['F', 'F', 'L']
  | 'ﬅ' | 'ﬆ' => ['S', 'T']
  | _ => [character.toUpper]

def upper (text : List Char) : List Char :=
  text.flatMap upperOne

example : upper ['o', 'ſ'] = ['O', 'S'] := by decide

end Hotspot.Text
