import Mathlib.Algebra.Order.Ring.Nat

/-!
JSON values and the compact text Go's `encoding/json` writes for them: no
blanks, object fields in the order given, and strings with HTML escaping.
The text determines the value, also in front of any continuation that does
not prolong a number, and its size in bytes is a sum over its parts.
-/
namespace Pilot.Json
open List

inductive Value where
  | null
  | bool (b : Bool)
  | number (n : Int)
  | string (s : String)
  | array (items : List Value)
  | object (fields : List (String × Value))

def escape (c : Char) : List Char :=
  if c = '"' ∨ c = '\\' then ['\\',c]
  else if c = '\x08' then ['\\','b']
  else if c = '\x0c' then ['\\','f']
  else if c = '\n' then ['\\','n']
  else if c = '\r' then ['\\','r']
  else if c = '\t' then ['\\','t']
  else if c.toNat < 32 ∨ c = '<' ∨ c = '>' ∨ c = '&' then
    ['\\','u','0','0',Nat.digitChar (c.toNat / 16),Nat.digitChar (c.toNat % 16)]
  else if c = '\u2028' ∨ c = '\u2029' then ['\\','u','2','0','2',Nat.digitChar (c.toNat % 16)]
  else [c]

def quoted (s : String) : List Char := '"' :: (s.toList.flatMap escape ++ ['"'])

def numberText : Int → List Char
  | .ofNat n => Nat.toDigits 10 n
  | .negSucc n => '-' :: Nat.toDigits 10 (n + 1)

def comma (first : Bool) : List Char := if first then [] else [',']

mutual

def text : Value → List Char
  | .null => ['n','u','l','l']
  | .bool true => ['t','r','u','e']
  | .bool false => ['f','a','l','s','e']
  | .number n => numberText n
  | .string s => quoted s
  | .array items => '[' :: itemsText true items
  | .object fields => '{' :: fieldsText true fields

def itemsText (first : Bool) : List Value → List Char
  | [] => [']']
  | item :: items => comma first ++ (text item ++ itemsText false items)

def fieldsText (first : Bool) : List (String × Value) → List Char
  | [] => ['}']
  | (name, value) :: fields =>
    comma first ++ (quoted name ++ ':' :: (text value ++ fieldsText false fields))

end

def marshal (v : Value) : String := String.ofList (text v)

def hexValue (c : Char) : Nat := if c.isDigit then c.toNat - 48 else c.toNat - 87

theorem hexValue_digitChar (small : n < 16) : hexValue (Nat.digitChar n) = n := by
  revert n
  decide

/-- Reads one character of a string literal's inside back. -/
def unescape : List Char → Option (Char × List Char)
  | '\\' :: 'u' :: a :: b :: c :: d :: rest =>
    some (Char.ofNat (((hexValue a * 16 + hexValue b) * 16 + hexValue c) * 16 + hexValue d), rest)
  | '\\' :: 'b' :: rest => some ('\x08', rest)
  | '\\' :: 'f' :: rest => some ('\x0c', rest)
  | '\\' :: 'n' :: rest => some ('\n', rest)
  | '\\' :: 'r' :: rest => some ('\r', rest)
  | '\\' :: 't' :: rest => some ('\t', rest)
  | '\\' :: c :: rest => some (c, rest)
  | c :: rest => some (c, rest)
  | [] => none

variable {c : Char}

theorem unescape_hex (rest : List Char) (small : c.toNat < 256) :
    unescape (['\\','u','0','0',Nat.digitChar (c.toNat / 16),Nat.digitChar (c.toNat % 16)] ++ rest)
      = some (c, rest) := by
  have high : hexValue (Nat.digitChar (c.toNat / 16)) = c.toNat / 16 :=
    hexValue_digitChar (by omega)
  have low : hexValue (Nat.digitChar (c.toNat % 16)) = c.toNat % 16 :=
    hexValue_digitChar (by omega)
  have zero : hexValue '0' = 0 := rfl
  have whole : c.toNat / 16 * 16 + c.toNat % 16 = c.toNat := by omega
  simp [unescape,high,low,zero,whole,Char.ofNat_toNat]

theorem unescape_plain (rest : List Char) (plain : c ≠ '\\') : unescape (c :: rest) = some (c, rest) := by
  unfold unescape
  split <;> simp_all

theorem unescape_escape (c : Char) (rest : List Char) : unescape (escape c ++ rest) = some (c, rest) := by
  unfold escape
  split_ifs with quote back feed line carriage tab control separator
  · rcases quote with rfl | rfl <;> rfl
  · subst back; rfl
  · subst feed; rfl
  · subst line; rfl
  · subst carriage; rfl
  · subst tab; rfl
  · refine unescape_hex rest ?_
    rcases control with low | rfl | rfl | rfl
    · omega
    all_goals decide
  · rcases separator with rfl | rfl <;> rfl
  · exact unescape_plain rest (by tauto)

theorem escape_cancel (same : escape c ++ x = escape d ++ y) : c = d ∧ x = y := by
  have read := congrArg unescape same
  simpa [unescape_escape] using read

theorem escape_not_quote (c : Char) (x y : List Char) : escape c ++ x ≠ '"' :: y := by
  unfold escape
  split_ifs with quote <;> simp
  intro same
  exact absurd (Or.inl same) quote

theorem inside_cancel : ∀ (s t x y : List Char),
    s.flatMap escape ++ '"' :: x = t.flatMap escape ++ '"' :: y → s = t ∧ x = y
  | [], [], x, y, same => by simpa using same
  | [], d :: t, x, y, same => by
    simp only [flatMap_nil,nil_append,flatMap_cons,append_assoc] at same
    exact absurd same.symm (escape_not_quote d _ _)
  | c :: s, [], x, y, same => by
    simp only [flatMap_nil,nil_append,flatMap_cons,append_assoc] at same
    exact absurd same (escape_not_quote c _ _)
  | c :: s, d :: t, x, y, same => by
    simp only [flatMap_cons,append_assoc] at same
    obtain ⟨head,tail⟩ := escape_cancel same
    obtain ⟨rest,after⟩ := inside_cancel s t x y tail
    exact ⟨by rw [head,rest],after⟩

theorem quoted_cancel (same : quoted s ++ x = quoted t ++ y) : s = t ∧ x = y := by
  simp only [quoted,cons_append,append_assoc,nil_append,cons.injEq,true_and] at same
  obtain ⟨inside,after⟩ := inside_cancel _ _ _ _ same
  exact ⟨String.toList_inj.mp inside,after⟩

/-- The continuations in front of which a number ends. -/
def Stops (x : List Char) : Prop := ∀ c ∈ x.head?, c.isDigit = false

theorem stops_cons (plain : c.isDigit = false) : Stops (c :: x) := by
  intro d mem
  simp only [head?_cons,Option.mem_def,Option.some.injEq] at mem
  rw [← mem,plain]

theorem takeWhile_digits (digits : ∀ c ∈ ds, c.isDigit) (stops : Stops x) :
    (ds ++ x).takeWhile Char.isDigit = ds := by
  induction ds with
  | nil =>
    cases x with
    | nil => rfl
    | cons c x => simp [stops c (by simp)]
  | cons d ds ih =>
    have head := digits d (by simp)
    have tail := ih (fun c mem => digits c (by simp [mem]))
    simp [head,tail]

theorem digits_cancel (left : Stops x) (right : Stops y)
    (same : Nat.toDigits 10 m ++ x = Nat.toDigits 10 n ++ y) : m = n ∧ x = y := by
  have isDigit (k : Nat) : ∀ c ∈ Nat.toDigits 10 k, c.isDigit := fun c mem =>
    Nat.isDigit_of_mem_toDigits (by decide) (by decide) mem
  have equal : Nat.toDigits 10 m = Nat.toDigits 10 n := by
    rw [← takeWhile_digits (isDigit m) left,← takeWhile_digits (isDigit n) right,same]
  have value := congrArg (Nat.ofDigitChars 10 · 0) equal
  simp only [Nat.ofDigitChars_ten_toDigits] at value
  rw [equal] at same
  exact ⟨value,append_cancel_left same⟩

theorem digits_head (n : Nat) : ∃ c cs, Nat.toDigits 10 n = c :: cs ∧ c.isDigit := by
  cases found : Nat.toDigits 10 n with
  | nil => exact absurd found Nat.toDigits_ne_nil
  | cons c cs =>
    have mem : c ∈ Nat.toDigits 10 n := by rw [found]; exact mem_cons_self
    exact ⟨c,cs,rfl,Nat.isDigit_of_mem_toDigits (by decide) (by decide) mem⟩

theorem number_cancel (left : Stops x) (right : Stops y)
    (same : numberText m ++ x = numberText n ++ y) : m = n ∧ x = y := by
  -- A minus sign never starts a run of digits, so the signs agree.
  have minus (k : Nat) (u v : List Char) : Nat.toDigits 10 k ++ u ≠ '-' :: v := by
    obtain ⟨c,cs,found,digit⟩ := digits_head k
    intro equal
    rw [found,cons_append,cons.injEq] at equal
    rw [equal.1] at digit
    exact absurd digit (by decide)
  cases m with
  | ofNat m =>
    cases n with
    | ofNat n =>
      obtain ⟨value,after⟩ := digits_cancel left right same
      exact ⟨congrArg Int.ofNat value,after⟩
    | negSucc n => exact absurd same (minus m x _)
  | negSucc m =>
    cases n with
    | ofNat n => exact absurd same.symm (minus n y _)
    | negSucc n =>
      simp only [numberText,cons_append,cons.injEq,true_and] at same
      obtain ⟨value,after⟩ := digits_cancel left right same
      exact ⟨congrArg Int.negSucc (Nat.succ.inj value),after⟩

inductive Kind where
  | null | bool | number | string | array | object
  deriving DecidableEq

def kind : Value → Kind
  | .null => .null
  | .bool _ => .bool
  | .number _ => .number
  | .string _ => .string
  | .array _ => .array
  | .object _ => .object

/-- The kind of value whose text starts with this character. -/
def startKind (c : Char) : Option Kind :=
  if c = 'n' then some .null
  else if c = 't' ∨ c = 'f' then some .bool
  else if c = '"' then some .string
  else if c = '[' then some .array
  else if c = '{' then some .object
  else if c = '-' ∨ c.isDigit then some .number
  else none

theorem digit_startKind (digit : c.isDigit) : startKind c = some .number := by
  unfold startKind
  split_ifs with null bool string array object number
  · subst null; exact absurd digit (by decide)
  · rcases bool with rfl | rfl <;> exact absurd digit (by decide)
  · subst string; exact absurd digit (by decide)
  · subst array; exact absurd digit (by decide)
  · subst object; exact absurd digit (by decide)
  · rfl
  · exact absurd (Or.inr digit) number

theorem text_start (v : Value) : ∃ c cs, text v = c :: cs ∧ startKind c = some (kind v) := by
  match v with
  | .null | .bool true | .bool false => exact ⟨_,_,rfl,rfl⟩
  | .number (.ofNat n) =>
    obtain ⟨c,cs,found,digit⟩ := digits_head n
    exact ⟨c,cs,found,digit_startKind digit⟩
  | .number (.negSucc n) | .string s => exact ⟨_,_,rfl,rfl⟩
  | .array items | .object fields => exact ⟨_,_,by rw [text],rfl⟩

theorem kind_eq (same : text v ++ x = text w ++ y) : kind v = kind w := by
  obtain ⟨c,cs,first,left⟩ := text_start v
  obtain ⟨d,ds,second,right⟩ := text_start w
  rw [first,second,cons_append,cons_append,cons.injEq] at same
  rw [same.1,right,Option.some.injEq] at left
  exact left.symm

theorem text_not_close (v : Value) (x y : List Char) : text v ++ x ≠ ']' :: y := by
  obtain ⟨c,cs,found,start⟩ := text_start v
  intro same
  rw [found,cons_append,cons.injEq] at same
  have none : startKind ']' = none := by decide
  rw [same.1,none] at start
  cases start

theorem item_not_close (first : Bool) (item : Value) (x y : List Char) :
    comma first ++ (text item ++ x) ≠ ']' :: y := by
  cases first with
  | true => exact text_not_close item x y
  | false => simp [comma]

theorem field_not_close (first : Bool) (name : String) (x y : List Char) :
    comma first ++ (quoted name ++ x) ≠ '}' :: y := by
  cases first <;> simp [comma,quoted]

theorem itemsText_stops (items : List Value) (x : List Char) : Stops (itemsText false items ++ x) := by
  cases items <;> exact stops_cons (by decide)

theorem fieldsText_stops (fields : List (String × Value)) (x : List Char) :
    Stops (fieldsText false fields ++ x) := by
  cases fields <;> exact stops_cons (by decide)

mutual

/-- A value's text followed by a continuation that does not prolong a number
    can be read in one way only. -/
theorem text_cancel : ∀ (v w : Value) (x y : List Char), Stops x → Stops y →
    text v ++ x = text w ++ y → v = w ∧ x = y
  | .null, w, x, y, _, _, same => by
    cases w with
    | null => simpa [text] using same
    | _ => exact absurd (kind_eq same) nofun
  | .bool b, w, x, y, _, _, same => by
    cases w with
    | bool b' => cases b <;> cases b' <;> simp [text] at same <;> exact ⟨rfl,same⟩
    | _ => exact absurd (kind_eq same) nofun
  | .number n, w, x, y, left, right, same => by
    cases w with
    | number n' =>
      obtain ⟨value,after⟩ := number_cancel left right same
      exact ⟨by rw [value],after⟩
    | _ => exact absurd (kind_eq same) nofun
  | .string s, w, x, y, _, _, same => by
    cases w with
    | string s' =>
      obtain ⟨value,after⟩ := quoted_cancel same
      exact ⟨by rw [value],after⟩
    | _ => exact absurd (kind_eq same) nofun
  | .array items, w, x, y, _, _, same => by
    cases w with
    | array items' =>
      simp only [text,cons_append,cons.injEq,true_and] at same
      obtain ⟨value,after⟩ := itemsText_cancel true items items' x y same
      exact ⟨by rw [value],after⟩
    | _ => exact absurd (kind_eq same) nofun
  | .object fields, w, x, y, _, _, same => by
    cases w with
    | object fields' =>
      simp only [text,cons_append,cons.injEq,true_and] at same
      obtain ⟨value,after⟩ := fieldsText_cancel true fields fields' x y same
      exact ⟨by rw [value],after⟩
    | _ => exact absurd (kind_eq same) nofun

theorem itemsText_cancel (first : Bool) : ∀ (items items' : List Value) (x y : List Char),
    itemsText first items ++ x = itemsText first items' ++ y → items = items' ∧ x = y
  | [], [], x, y, same => by simpa [itemsText] using same
  | [], item :: items', x, y, same => by
    simp only [itemsText,cons_append,nil_append,append_assoc] at same
    exact absurd same.symm (item_not_close first _ _ _)
  | item :: items, [], x, y, same => by
    simp only [itemsText,cons_append,nil_append,append_assoc] at same
    exact absurd same (item_not_close first _ _ _)
  | item :: items, item' :: items', x, y, same => by
    simp only [itemsText,append_assoc] at same
    obtain ⟨head,tail⟩ := text_cancel item item' _ _ (itemsText_stops items x)
      (itemsText_stops items' y) (append_cancel_left same)
    obtain ⟨rest,after⟩ := itemsText_cancel false items items' x y tail
    exact ⟨by rw [head,rest],after⟩

theorem fieldsText_cancel (first : Bool) : ∀ (fields fields' : List (String × Value))
    (x y : List Char), fieldsText first fields ++ x = fieldsText first fields' ++ y →
    fields = fields' ∧ x = y
  | [], [], x, y, same => by simpa [fieldsText] using same
  | [], (name, value) :: fields', x, y, same => by
    simp only [fieldsText,cons_append,nil_append,append_assoc] at same
    exact absurd same.symm (field_not_close first _ _ _)
  | (name, value) :: fields, [], x, y, same => by
    simp only [fieldsText,cons_append,nil_append,append_assoc] at same
    exact absurd same (field_not_close first _ _ _)
  | (name, value) :: fields, (name', value') :: fields', x, y, same => by
    simp only [fieldsText,cons_append,append_assoc] at same
    obtain ⟨rfl,body⟩ := quoted_cancel (append_cancel_left same)
    rw [cons.injEq] at body
    obtain ⟨head,tail⟩ := text_cancel value value' _ _ (fieldsText_stops fields x)
      (fieldsText_stops fields' y) body.2
    obtain ⟨rest,after⟩ := fieldsText_cancel false fields fields' x y tail
    exact ⟨by rw [head,rest],after⟩

end

theorem marshal_injective : Function.Injective marshal := by
  intro v w same
  have texts : text v = text w := String.ofList_injective same
  have stops : Stops [] := by simp [Stops]
  exact (text_cancel v w [] [] stops stops (by rw [texts])).1

def bytes (cs : List Char) : Nat := (cs.map Char.utf8Size).sum

@[simp]
theorem bytes_nil : bytes [] = 0 := rfl

@[simp]
theorem bytes_cons (c : Char) (cs : List Char) : bytes (c :: cs) = c.utf8Size + bytes cs := rfl

@[simp]
theorem bytes_append (x y : List Char) : bytes (x ++ y) = bytes x + bytes y := by
  simp [bytes]

theorem bytes_ofList (cs : List Char) : (String.ofList cs).utf8ByteSize = bytes cs := by
  induction cs with
  | nil => rfl
  | cons c cs ih =>
    rw [String.ofList_cons,String.utf8ByteSize_append,String.utf8ByteSize_singleton,ih,bytes_cons]

theorem length_le_bytes (cs : List Char) : cs.length ≤ bytes cs := by
  induction cs with
  | nil => exact Nat.le_refl 0
  | cons c cs ih =>
    have one := Char.utf8Size_pos c
    simp only [length_cons,bytes_cons]
    omega

theorem escape_nonempty (c : Char) : 1 ≤ bytes (escape c) := by
  have length : 1 ≤ (escape c).length := by
    unfold escape
    split_ifs <;> simp
  exact Nat.le_trans length (length_le_bytes _)

theorem quoted_size (s : String) : s.length + 2 ≤ bytes (quoted s) := by
  have inside : ∀ cs : List Char, cs.length ≤ bytes (cs.flatMap escape) := by
    intro cs
    induction cs with
    | nil => exact Nat.le_refl 0
    | cons c cs ih =>
      have one := escape_nonempty c
      simp only [length_cons,flatMap_cons,bytes_append]
      omega
  have body := inside s.toList
  have quote : Char.utf8Size '"' = 1 := by decide
  rw [String.length_toList] at body
  simp only [quoted,bytes_cons,bytes_append,bytes_nil,quote]
  omega

end Pilot.Json
