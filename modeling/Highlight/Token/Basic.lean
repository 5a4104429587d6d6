/-!
# Tokens

A tokenization cuts a text into a row of tokens. A token is either plain text or
belongs to a lexical category, and then it covers either raw text or a further
row of tokens. A category may come with a second name, its alias.

Reading the leaves of a row of tokens from left to right gives back the text
that was cut (`Token.textAll`).
-/

namespace Highlight

set_option autoImplicit false

/-- One piece of a tokenized text. -/
inductive Token where
  | literal (text : String)
  | leaf (category : String) (secondName : Option String) (text : String)
  | node (category : String) (secondName : Option String) (children : List Token)
deriving Inhabited

namespace Token

/-! ## Text -/

mutual

/-- The text a token covers. -/
def text : Token → String
  | literal text => text
  | leaf _ _ text => text
  | node _ _ children => textAll children

/-- The text a row of tokens covers. -/
def textAll : List Token → String
  | [] => ""
  | t :: rest => t.text ++ textAll rest

end

mutual

/-- How many characters a token covers. -/
def length : Token → Nat
  | literal text => text.length
  | leaf _ _ text => text.length
  | node _ _ children => lengthAll children

/-- How many characters a row of tokens covers. -/
def lengthAll : List Token → Nat
  | [] => 0
  | t :: rest => t.length + lengthAll rest

end

mutual

/-- The length of a token is the length of its text. -/
theorem length_text : ∀ t : Token, t.text.length = t.length
  | literal _ => rfl
  | leaf _ _ _ => rfl
  | node _ _ children => length_textAll children

/-- The length of a row of tokens is the length of its text. -/
theorem length_textAll : ∀ ts : List Token, (textAll ts).length = lengthAll ts
  | [] => rfl
  | t :: rest => by
      simp only [textAll, lengthAll, String.length_append, length_text t, length_textAll rest]

end

/-! ## Parts -/

/-- The lexical category, if the token has one. -/
def category? : Token → Option String
  | literal _ => none
  | leaf category _ _ => some category
  | node category _ _ => some category

/-- The token with another alias. Plain text has none to change. -/
def withAlias (name : String) : Token → Token
  | literal text => literal text
  | leaf category _ text => leaf category (some name) text
  | node category _ children => node category (some name) children

/-! ## Equality -/

mutual

/-- Decides whether two tokens are equal. -/
def decideEq : (s t : Token) → Decidable (s = t)
  | literal a, literal b =>
      if h : a = b then isTrue (by rw [h]) else isFalse (by simp [h])
  | leaf c a x, leaf d b y =>
      if h : c = d ∧ a = b ∧ x = y then isTrue (by rw [h.1, h.2.1, h.2.2])
      else isFalse (by simpa using h)
  | node c a xs, node d b ys =>
      match decideEqAll xs ys with
      | isTrue same =>
          if h : c = d ∧ a = b then isTrue (by rw [h.1, h.2, same])
          else isFalse (by simp only [node.injEq]; exact fun e => h ⟨e.1, e.2.1⟩)
      | isFalse other => isFalse (by simp [other])
  | literal _, leaf _ _ _ => isFalse (by simp)
  | literal _, node _ _ _ => isFalse (by simp)
  | leaf _ _ _, literal _ => isFalse (by simp)
  | leaf _ _ _, node _ _ _ => isFalse (by simp)
  | node _ _ _, literal _ => isFalse (by simp)
  | node _ _ _, leaf _ _ _ => isFalse (by simp)

/-- Decides whether two rows of tokens are equal. -/
def decideEqAll : (ss ts : List Token) → Decidable (ss = ts)
  | [], [] => isTrue rfl
  | [], _ :: _ => isFalse (by simp)
  | _ :: _, [] => isFalse (by simp)
  | s :: ss, t :: ts =>
      match decideEq s t, decideEqAll ss ts with
      | isTrue h, isTrue k => isTrue (by rw [h, k])
      | isFalse h, _ => isFalse (by simp [h])
      | _, isFalse k => isFalse (by simp [k])

end

instance : DecidableEq Token := decideEq

end Token

end Highlight
