/-
The standard grammar of data texts, as trees.

A tree keeps each choice that the grammar leaves to whoever writes a text: the
space between tokens, the digits of numbers, the escapes of strings.  So the
texts of the grammar are the characters of the trees (`Value.chars`), and a
tree says what its text is worth (`Value.json?`).  There is no value where
arrays and objects nest deeper than is read, where a number is beyond the
largest binary one, and where an escaped surrogate stands alone; everything
else in the grammar has one (`Value.isSome_json?_iff`).
-/
import MarketSearch.Json.Reader
import MarketSearch.Proofs.Lists

namespace MarketSearch
namespace Grammar

/-! ## Tokens -/

/-- Space between tokens. -/
abbrev Space := { cs : List Char // cs.all Json.isSpace = true }

def Space.none : Space := ⟨[], rfl⟩

/-- Something with space around it. -/
structure Padded (α : Type) where
  before : Space
  inner : α
  after : Space

/-- Something without space around it. -/
def Padded.tight {α : Type} (a : α) : Padded α := ⟨.none, a, .none⟩

abbrev Digits := { cs : List Char // cs ≠ [] ∧ cs.all Char.isDigit = true }

structure Exponent where
  mark : Char
  sign : Option Char
  digits : Digits
  mark_eq : mark = 'e' ∨ mark = 'E'
  sign_eq : ∀ c ∈ sign, c = '+' ∨ c = '-'

def Exponent.chars (e : Exponent) : List Char := e.mark :: (e.sign.toList ++ e.digits.val)

/-- A number, of which a leading zero stands alone. -/
structure Number where
  negative : Bool
  whole : Digits
  fraction : Option Digits
  exponent : Option Exponent
  whole_eq : whole.val.head? = .some '0' → whole.val = ['0']

namespace Number

def fractionChars : Option Digits → List Char
  | .none => []
  | .some ds => '.' :: ds.val

def exponentChars : Option Exponent → List Char
  | .none => []
  | .some e => e.chars

def signChars (negative : Bool) : List Char := if negative then ['-'] else []

def chars (n : Number) : List Char :=
  signChars n.negative ++ (n.whole.val ++ (fractionChars n.fraction ++ exponentChars n.exponent))

def parts (n : Number) : Json.Numeric :=
  ⟨n.negative, n.whole.val, n.fraction.map (·.val),
    n.exponent.map fun e => (decide (e.sign = .some '-'), e.digits.val)⟩

/-- The number `1`. -/
def one : Number := ⟨false, ⟨['1'], by decide⟩, .none, .none, by decide⟩

/-- The number `1e400`, which is out of range. -/
def endless : Number :=
  { one with exponent := .some ⟨'e', .none, ⟨['4', '0', '0'], by decide⟩, .inl rfl, nofun⟩ }

end Number

/-- The letters of the short escapes, and the characters they stand for. -/
def shortEscapes : List (Char × Char) :=
  [('"', '"'), ('\\', '\\'), ('/', '/'), ('b', '\x08'), ('f', '\x0c'), ('n', '\n'), ('r', '\r'),
    ('t', '\t')]

/-- A character that a string may hold as it is. -/
def isPlain (c : Char) : Bool := c != '"' && c != '\\' && 0x20 ≤ c.toNat

theorem isPlain_iff {c : Char} : isPlain c = true ↔ c ≠ '"' ∧ c ≠ '\\' ∧ 0x20 ≤ c.toNat := by
  simp [isPlain, and_assoc]

/-- Four hexadecimal digits and their value. -/
def IsHex4 (digits : List Char) (n : Nat) : Prop := digits.length = 4 ∧ Numeral.value? 16 digits = .some n

instance (digits : List Char) (n : Nat) : Decidable (IsHex4 digits n) := inferInstanceAs (Decidable (_ ∧ _))

/-- What a string is made of: characters as they are, short escapes, and units of four hexadecimal
digits. -/
inductive Piece where
  | plain (c : Char) (h : isPlain c = true)
  | short (letter c : Char) (h : shortEscapes.lookup letter = .some c)
  | unit (digits : List Char) (n : Nat) (h : IsHex4 digits n)

def Piece.chars : Piece → List Char
  | .plain c _ => [c]
  | .short letter _ _ => ['\\', letter]
  | .unit digits _ _ => '\\' :: 'u' :: digits

/-- The pieces between quotes. -/
def quoted (ps : List Piece) : List Char := '"' :: (ps.flatMap Piece.chars ++ ['"'])

/-- The characters that pieces stand for, none where a surrogate is not part of a pair. -/
def text? : List Piece → Option (List Char)
  | [] => .some []
  | .plain c _ :: ps => (text? ps).map (c :: ·)
  | .short _ c _ :: ps => (text? ps).map (c :: ·)
  | .unit _ n _ :: ps =>
    if Json.isHighSurrogate n then
      match ps with
      | .unit _ low _ :: ps =>
        if Json.isLowSurrogate low then
          (text? ps).map (Char.ofNat (0x10000 + (n - 0xD800) * 0x400 + (low - 0xDC00)) :: ·)
        else .none
      | _ => .none
    else if Json.isLowSurrogate n then .none
    else (text? ps).map (Char.ofNat n :: ·)

/-- The text that pieces stand for. -/
def string? (ps : List Piece) : Option String := (text? ps).map String.ofList

/-- A text that is written without escapes. -/
def plainly (s : String) (h : s.toList.all isPlain = true) : List Piece :=
  s.toList.pmap Piece.plain (List.all_eq_true.mp h)

theorem chars_pmap_plain {cs : List Char} (h : ∀ c ∈ cs, isPlain c = true) :
    (cs.pmap Piece.plain h).flatMap Piece.chars = cs ∧ text? (cs.pmap Piece.plain h) = .some cs := by
  induction cs with
  | nil => exact ⟨rfl, rfl⟩
  | cons c cs ih =>
    obtain ⟨hchars, htext⟩ := ih fun d hd => h d (List.mem_cons_of_mem _ hd)
    simp [Piece.chars, text?, hchars, htext]

theorem string?_plainly (s : String) (h : s.toList.all isPlain = true) : string? (plainly s h) = .some s := by
  rw [string?, plainly, (chars_pmap_plain (List.all_eq_true.mp h)).2, Option.map_some, String.ofList_toList]

/-! ## Values -/

inductive Value where
  | null
  | bool (b : Bool)
  | number (n : Number)
  | string (ps : List Piece)
  | emptyArray (inside : Space)
  | array (first : Padded Value) (others : List (Padded Value))
  | emptyObject (inside : Space)
  | object (first : Padded (List Piece) × Padded Value)
      (others : List (Padded (List Piece) × Padded Value))

/-- A value with space around it is a whole text. -/
abbrev Document := Padded Value

/-- A name and its value, with space around each. -/
abbrev Member := Padded (List Piece) × Padded Value

/-- A name, with the space around it, and the colon after it. -/
def nameChars (name : Padded (List Piece)) : List Char :=
  name.before.val ++ (quoted name.inner ++ (name.after.val ++ [':']))

namespace Value

mutual
def chars : Value → List Char
  | .null => ['n', 'u', 'l', 'l']
  | .bool true => ['t', 'r', 'u', 'e']
  | .bool false => ['f', 'a', 'l', 's', 'e']
  | .number n => n.chars
  | .string ps => quoted ps
  | .emptyArray inside => '[' :: (inside.val ++ [']'])
  | .array ⟨before, v, after⟩ es => '[' :: (before.val ++ (chars v ++ (after.val ++ itemsChars es)))
  | .emptyObject inside => '\x7b' :: (inside.val ++ ['\x7d'])
  | .object (name, ⟨before, v, after⟩) ms =>
    '\x7b' :: (nameChars name ++ (before.val ++ (chars v ++ (after.val ++ membersChars ms))))

/-- The items after the first, each after its comma, and the closing bracket. -/
def itemsChars : List (Padded Value) → List Char
  | [] => [']']
  | ⟨before, v, after⟩ :: es => ',' :: (before.val ++ (chars v ++ (after.val ++ itemsChars es)))

def membersChars : List (Padded (List Piece) × Padded Value) → List Char
  | [] => ['\x7d']
  | (name, ⟨before, v, after⟩) :: ms =>
    ',' :: (nameChars name ++ (before.val ++ (chars v ++ (after.val ++ membersChars ms))))
end

/-- Whether the value is an array or an object. -/
def isNest : Value → Bool
  | .emptyArray _ | .array .. | .emptyObject _ | .object .. => true
  | _ => false

/-- The values directly inside. -/
def children : Value → List Value
  | .array first others => (first :: others).map (·.inner)
  | .object first others => (first :: others).map (·.2.inner)
  | _ => []

/-- A member, of which `name?` and `value?` say what names and values are worth. -/
def member? {ν α : Type} (name? : List Piece → Option ν) (value? : Value → Option α) (m : Member) :
    Option (ν × α) :=
  (name? m.1.inner).bind fun name => (value? m.2.inner).map fun v => (name, v)

/-- The value of a text, of which arrays and objects nest at most `depth` deep. -/
def json? : (depth : Nat) → Value → Option Json
  | _, .null => .some .null
  | _, .bool b => .some (.bool b)
  | _, .number n => n.parts.value?
  | _, .string ps => (string? ps).map .str
  | 0, _ => .none
  | _ + 1, .emptyArray _ => .some (.arr [])
  | depth + 1, .array first others =>
    ((first :: others).mapM fun e => json? depth e.inner).map .arr
  | _ + 1, .emptyObject _ => .some (.obj [])
  | depth + 1, .object first others => ((first :: others).mapM (member? string? (json? depth))).map .obj

/-- Arrays and objects nest at most `depth` deep. -/
def NestsWithin : (depth : Nat) → Value → Prop
  | 0, v => v.isNest = false
  | depth + 1, v => ∀ w ∈ v.children, NestsWithin depth w

/-- A number is not beyond the largest binary one, and surrogates in a string or in a name come in
pairs. -/
def InRange : Value → Prop
  | .number n => n.parts.value?.isSome = true
  | .string ps => (text? ps).isSome = true
  | .object first others => ∀ m ∈ first :: others, (text? m.1.inner).isSome = true
  | _ => True

/-- The value and all values inside are in range. -/
inductive IsReadable : Value → Prop where
  | of {v : Value} (own : v.InRange) (below : ∀ w ∈ v.children, IsReadable w) : IsReadable v

theorem isReadable_iff {v : Value} : v.IsReadable ↔ v.InRange ∧ ∀ w ∈ v.children, w.IsReadable :=
  ⟨fun ⟨own, below⟩ => ⟨own, below⟩, fun ⟨own, below⟩ => .of own below⟩

theorem children_of_isNest {v : Value} (h : v.isNest = false) : v.children = [] := by
  cases v <;> first | rfl | cases h

theorem isSome_member? {value? : Value → Option Json} {m : Member} :
    (member? string? value? m).isSome = true ↔
      (text? m.1.inner).isSome = true ∧ (value? m.2.inner).isSome = true := by
  unfold member? string?
  cases text? m.1.inner <;> simp

theorem isSome_json?_zero {v : Value} : (v.json? 0).isSome = true ↔ v.isNest = false ∧ v.InRange := by
  cases v <;> simp [json?, isNest, InRange, string?]

/-- A text has a value when it is in range and the texts of the values inside have one. -/
theorem isSome_json?_succ {depth : Nat} {v : Value} :
    (v.json? (depth + 1)).isSome = true ↔ v.InRange ∧ ∀ w ∈ v.children, (w.json? depth).isSome = true := by
  cases v with
  | array first others =>
    simp only [json?, Option.isSome_map, isSome_mapM_iff, InRange, children, List.forall_mem_map, true_and]
  | object first others =>
    simp only [json?, Option.isSome_map, isSome_mapM_iff, InRange, children, List.forall_mem_map,
      isSome_member?, forall_and]
  | _ => simp [json?, InRange, children, string?]

/-- **The texts that have a value** are those that nest within the depth and are readable. -/
theorem isSome_json?_iff {depth : Nat} {v : Value} :
    (v.json? depth).isSome = true ↔ v.NestsWithin depth ∧ v.IsReadable := by
  induction depth generalizing v with
  | zero =>
    rw [isSome_json?_zero, isReadable_iff, NestsWithin]
    refine and_congr_right fun hnest => ?_
    simp [children_of_isNest hnest]
  | succ depth ih =>
    rw [isSome_json?_succ, isReadable_iff, NestsWithin]
    simp only [ih, forall_and]
    exact and_left_comm

/-- The number `1e400` is beyond the largest binary one. -/
example : (⟨false, ['1'], .none, .some (false, ['4', '0', '0'])⟩ : Json.Numeric).value?.isNone = true := by
  decide +kernel

/-- The first half of a pair of surrogates stands for nothing. -/
example : text? [.unit ['d', '8', '3', '4'] 0xD834 (by decide)] = .none := rfl

/-- What a text is worth does not change where it may nest deeper. -/
theorem json?_succ {depth : Nat} {v : Value} {j : Json} (h : v.json? depth = .some j) :
    v.json? (depth + 1) = .some j := by
  induction depth generalizing v j with
  | zero =>
    cases v with
    | null | bool | number | string => exact h
    | _ => cases h
  | succ depth ih =>
    cases v with
    | array first others =>
      obtain ⟨js, hjs, rfl⟩ := Option.map_eq_some_iff.mp h
      refine Option.map_eq_some_iff.mpr ⟨js, mapM_eq_some_iff.mpr ?_, rfl⟩
      exact (mapM_eq_some_iff.mp hjs).imp fun _ _ h => ih h
    | object first others =>
      obtain ⟨ms, hms, rfl⟩ := Option.map_eq_some_iff.mp h
      refine Option.map_eq_some_iff.mpr ⟨ms, mapM_eq_some_iff.mpr ?_, rfl⟩
      refine (mapM_eq_some_iff.mp hms).imp fun m _ h => ?_
      obtain ⟨name, hname, hvalue⟩ := Option.bind_eq_some_iff.mp h
      obtain ⟨w, hw, rfl⟩ := Option.map_eq_some_iff.mp hvalue
      rw [member?, hname, Option.bind_some, ih hw]
      rfl
    | _ => exact h

theorem json?_of_le {depth depth' : Nat} (hle : depth ≤ depth') {v : Value} {j : Json}
    (h : v.json? depth = .some j) : v.json? depth' = .some j := by
  induction hle with
  | refl => exact h
  | step _ ih => exact json?_succ ih

end Value

namespace Document

def chars (d : Document) : List Char := d.before.val ++ (d.inner.chars ++ d.after.val)

def text (d : Document) : String := String.ofList d.chars

end Document

theorem chars_tight (v : Value) : Document.chars (.tight v) = v.chars := by
  simp [Document.chars, Padded.tight, Space.none]

end Grammar
end MarketSearch
