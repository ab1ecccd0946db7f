import Mathlib.Data.List.Basic

/-!
UTF-8 that comes in pieces, decoded as `unicode/utf8` does it: a character, an
error for one byte, or too few bytes to tell. More bytes never change what was
told, so the pieces decode to what the whole decodes to.
-/
namespace Pilot.Utf8
open List

/-- A first byte: how many bytes follow, its bits, and the range of the second byte. -/
structure Lead where
  (tails payload low high : Nat)

def lead (b : Nat) : Option Lead :=
  if b < 0x80 then some ⟨0,b,0x80,0xBF⟩
  else if b < 0xC2 then none
  else if b < 0xE0 then some ⟨1,b-0xC0,0x80,0xBF⟩
  else if b < 0xF0 then some ⟨2,b-0xE0,if b = 0xE0 then 0xA0 else 0x80,if b = 0xED then 0x9F else 0xBF⟩
  else if b < 0xF5 then some ⟨3,b-0xF0,if b = 0xF0 then 0x90 else 0x80,if b = 0xF4 then 0x8F else 0xBF⟩
  else none

def continues (low high : Nat) : List UInt8 → Bool
  | [] => true
  | b :: bs => decide (low ≤ b.toNat) && decide (b.toNat ≤ high) && continues 0x80 0xBF bs

def Lead.rune (l : Lead) (tail : List UInt8) : Char :=
  .ofNat (tail.foldl (fun v b => v*64 + (b.toNat - 0x80)) l.payload)

def runeError : Char := '�'

def decodeRune : List UInt8 → Char × Nat
  | [] => (runeError,0)
  | b :: rest =>
    match lead b.toNat with
    | none => (runeError,1)
    | some l =>
      let tail := rest.take l.tails
      if tail.length = l.tails ∧ continues l.low l.high tail then (l.rune tail,l.tails+1) else (runeError,1)

/-- An invalid encoding is full: it is an error of one byte. -/
def fullRune : List UInt8 → Bool
  | [] => false
  | b :: rest =>
    match lead b.toNat with
    | none => true
    | some l =>
      let tail := rest.take l.tails
      decide (tail.length = l.tails) || !continues l.low l.high tail

/-- What a decoder that waits for more bytes does next. -/
def next (buf : List UInt8) : Option (Char × Nat) :=
  let (r,size) := decodeRune buf
  if r = runeError ∧ size ≤ 1 then if fullRune buf then some (runeError,1) else none else some (r,size)

def tailByte (v : Nat) : UInt8 := .ofNat (0x80 + v%64)

def encodeRune (c : Char) : List UInt8 :=
  let v := c.toNat
  if v < 0x80 then [.ofNat v]
  else if v < 0x800 then [.ofNat (0xC0 + v/64),tailByte v]
  else if v < 0x10000 then [.ofNat (0xE0 + v/4096),tailByte (v/64),tailByte v]
  else [.ofNat (0xF0 + v/262144),tailByte (v/4096),tailByte (v/64),tailByte v]

def encode (text : List Char) : List UInt8 := text.flatMap encodeRune

theorem continues_append (whole : continues low high (xs ++ ys) = true) : continues low high xs = true := by
  induction xs generalizing low high with
  | nil => rfl
  | cons b xs ih =>
    rw [cons_append,continues,Bool.and_eq_true] at whole
    rw [continues,Bool.and_eq_true]
    exact ⟨whole.1,ih whole.2⟩

theorem lead_ascii (is : lead b = some l) (alone : l.tails = 0) : l.payload < 0x80 := by
  unfold lead at is
  split at is
  · cases is
    assumption
  split at is
  · cases is
  · repeat' split at is
    all_goals cases is <;> cases alone

theorem next_cons (b : UInt8) (rest : List UInt8) : next (b :: rest) =
    match lead b.toNat with
    | none => some (runeError,1)
    | some l =>
      if continues l.low l.high (rest.take l.tails) = true then
        if (rest.take l.tails).length = l.tails then some (l.rune (rest.take l.tails),l.tails+1) else none
      else some (runeError,1) := by
  cases is : lead b.toNat with
  | none => simp [next,decodeRune,fullRune,is]
  | some l =>
    simp only [next,decodeRune,fullRune,is]
    by_cases fits : continues l.low l.high (rest.take l.tails) = true
    · by_cases full : (rest.take l.tails).length = l.tails
      · have told : ¬ (l.rune (rest.take l.tails) = runeError ∧ l.tails + 1 ≤ 1) := by
          intro ⟨error,alone⟩
          have none_ : l.tails = 0 := by omega
          have small := lead_ascii is none_
          have other : ∀ n < 0x80, Char.ofNat n ≠ runeError := by decide
          rw [none_,take_zero] at error
          exact other _ small error
        simp only [fits,full,and_self,if_true,told,if_false]
      · simp only [fits,full,false_and,if_false,Nat.le_refl,and_self,if_true,decide_false,Bool.not_true,
          Bool.or_self,Bool.false_eq_true]
    · simp [fits]

variable {buf : List UInt8}

/-- What was told of the bytes is told of more bytes too. -/
theorem next_append (told : next buf = some (c,size)) (more : List UInt8) :
    0 < size ∧ size ≤ buf.length ∧ next (buf ++ more) = some (c,size) := by
  cases buf with
  | nil => cases told
  | cons b rest =>
    rw [cons_append]
    rw [next_cons] at told ⊢
    cases is : lead b.toNat with
    | none =>
      rw [is] at told
      cases told
      exact ⟨Nat.one_pos,by simp,rfl⟩
    | some l =>
      rw [is] at told
      dsimp only at told ⊢
      split at told
      · rename_i fits
        split at told
        · rename_i full
          cases told
          have enough : l.tails ≤ rest.length := by
            rw [length_take] at full
            omega
          have same : (rest ++ more).take l.tails = rest.take l.tails := take_append_of_le_length enough
          rw [same,if_pos fits,if_pos full]
          exact ⟨Nat.succ_pos _,Nat.succ_le_succ enough,rfl⟩
        · cases told
      · rename_i breaks
        cases told
        refine ⟨Nat.one_pos,by simp,?_⟩
        rw [if_neg]
        intro fits
        rw [take_append] at fits
        exact breaks (continues_append fits)

/-- The text, and the bytes that wait for more. -/
def decode (buf : List UInt8) : List Char × List UInt8 :=
  match _ : next buf with
  | none => ([],buf)
  | some (c,size) => (c :: (decode (buf.drop size)).1,(decode (buf.drop size)).2)
termination_by buf.length
decreasing_by
  all_goals
    obtain ⟨pos,within,_⟩ := next_append ‹next buf = some _› []
    rw [length_drop]
    omega

theorem decode_none (wait : next buf = none) : decode buf = ([],buf) := by
  rw [decode]
  split
  · rfl
  · simp_all

theorem decode_some (told : next buf = some (c,size)) :
    decode buf = (c :: (decode (buf.drop size)).1,(decode (buf.drop size)).2) := by
  rw [decode]
  split
  · simp_all
  · simp_all

/-- The pieces of a text decode to what the whole decodes to. -/
theorem decode_append (buf more : List UInt8) : decode (buf ++ more) =
    ((decode buf).1 ++ (decode ((decode buf).2 ++ more)).1,(decode ((decode buf).2 ++ more)).2) := by
  induction size : buf.length using Nat.strongRecOn generalizing buf with
  | ind n ih =>
    cases told : next buf with
    | none => simp [decode_none told]
    | some read =>
      obtain ⟨c,k⟩ := read
      obtain ⟨pos,within,again⟩ := next_append told more
      have shorter : (buf.drop k).length < n := by
        rw [length_drop]
        omega
      rw [decode_some again,decode_some told,drop_append_of_le_length within,ih _ shorter _ rfl]
      rfl

theorem next_of_lead (is : lead b.toNat = some l) (tail : List UInt8)
    (full : tail.length = l.tails) (fits : continues l.low l.high tail = true)
    (rune : l.rune tail = c) (more : List UInt8) :
    next (b :: tail ++ more) = some (c,(b :: tail).length) := by
  have same : (tail ++ more).take l.tails = tail := by rw [← full,take_left]
  rw [cons_append,next_cons,is]
  dsimp only
  rw [same,if_pos fits,if_pos full,rune,length_cons,full]

theorem toNat_tailByte (v : Nat) : (tailByte v).toNat = 0x80 + v%64 := by
  unfold tailByte
  rw [UInt8.toNat_ofNat']
  omega

theorem lead_ofNat (small : n < 256) : lead (UInt8.ofNat n).toNat = lead n :=
  congrArg lead (UInt8.toNat_ofNat_of_lt small)

theorem next_encodeRune (c : Char) (more : List UInt8) :
    next (encodeRune c ++ more) = some (c,(encodeRune c).length) := by
  have valid : c.toNat < 0xD800 ∨ 0xDFFF < c.toNat ∧ c.toNat < 0x110000 := c.valid
  have back : ∀ n, n = c.toNat → Char.ofNat n = c := fun n same => same ▸ Char.ofNat_toNat c
  unfold encodeRune
  dsimp only
  generalize c.toNat = v at valid back ⊢
  split
  · have is : lead (UInt8.ofNat v).toNat = some ⟨0,v,0x80,0xBF⟩ := by
      rw [lead_ofNat (by omega),lead,if_pos (by omega)]
    exact next_of_lead is [] rfl rfl (back v rfl) more
  split
  · have is : lead (UInt8.ofNat (0xC0 + v/64)).toNat = some ⟨1,v/64,0x80,0xBF⟩ := by
      rw [lead_ofNat (by omega),lead,if_neg (by omega),if_neg (by omega),if_pos (by omega),
        Nat.add_sub_cancel_left]
    apply next_of_lead is [_] rfl
    · simp only [continues,toNat_tailByte]
      simp
      omega
    · apply back
      simp only [foldl_cons,foldl_nil,toNat_tailByte]
      omega
  · split
    · have is : lead (UInt8.ofNat (0xE0 + v/4096)).toNat = some ⟨2,v/4096,
          if 0xE0 + v/4096 = 0xE0 then 0xA0 else 0x80,if 0xE0 + v/4096 = 0xED then 0x9F else 0xBF⟩ := by
        rw [lead_ofNat (by omega),lead,if_neg (by omega),if_neg (by omega),if_neg (by omega),
          if_pos (by omega),Nat.add_sub_cancel_left]
      apply next_of_lead is [_,_] rfl
      · simp only [continues,toNat_tailByte]
        split <;> split <;> simp <;> omega
      · apply back
        simp only [foldl_cons,foldl_nil,toNat_tailByte]
        omega
    · have is : lead (UInt8.ofNat (0xF0 + v/262144)).toNat = some ⟨3,v/262144,
          if 0xF0 + v/262144 = 0xF0 then 0x90 else 0x80,if 0xF0 + v/262144 = 0xF4 then 0x8F else 0xBF⟩ := by
        rw [lead_ofNat (by omega),lead,if_neg (by omega),if_neg (by omega),if_neg (by omega),
          if_neg (by omega),if_pos (by omega),Nat.add_sub_cancel_left]
      apply next_of_lead is [_,_,_] rfl
      · simp only [continues,toNat_tailByte]
        split <;> split <;> simp <;> omega
      · apply back
        simp only [foldl_cons,foldl_nil,toNat_tailByte]
        omega

theorem decode_encode (text : List Char) : decode (encode text) = (text,[]) := by
  induction text with
  | nil => exact decode_none rfl
  | cons c text ih =>
    unfold encode at ih ⊢
    rw [flatMap_cons,decode_some (next_encodeRune c _),drop_left,ih]

theorem decodeRune_encodeRune (c : Char) (more : List UInt8) :
    decodeRune (encodeRune c ++ more) = (c,(encodeRune c).length) := by
  have told := next_encodeRune c more
  unfold next at told
  dsimp only at told
  split at told
  · split at told
    · obtain ⟨rfl,one⟩ := Prod.mk.inj (Option.some.inj told)
      cases one
    · cases told
  · exact Option.some.inj told

/-- The bytes with a replacement for each that is not UTF-8, some of which
    belong to a character that was written before. -/
def replaced : Nat → List UInt8 → List UInt8
  | _, [] => []
  | written+1, _ :: rest => replaced written rest
  | 0, b :: rest => encodeRune (decodeRune (b :: rest)).1 ++ replaced ((decodeRune (b :: rest)).2-1) rest

def toValid (bytes : List UInt8) : List UInt8 := replaced 0 bytes

theorem replaced_append (xs rest : List UInt8) : replaced xs.length (xs ++ rest) = toValid rest := by
  induction xs with
  | nil => rfl
  | cons x xs ih => exact ih

theorem encodeRune_ne_nil (c : Char) : encodeRune c ≠ [] := by
  unfold encodeRune
  dsimp only
  repeat' split
  all_goals exact nofun

theorem toValid_append (c : Char) (rest : List UInt8) :
    toValid (encodeRune c ++ rest) = encodeRune c ++ toValid rest := by
  have told := decodeRune_encodeRune c rest
  obtain ⟨b,tail,bytes⟩ := exists_cons_of_ne_nil (encodeRune_ne_nil c)
  rw [bytes,cons_append] at told
  rw [bytes,cons_append,toValid,replaced,told,bytes]
  exact congrArg _ (replaced_append tail rest)

theorem toValid_encode (text : List Char) : toValid (encode text) = encode text := by
  induction text with
  | nil => rfl
  | cons c text ih =>
    unfold encode at ih ⊢
    rw [flatMap_cons,toValid_append,ih]

theorem replaced_eq_encode (written : Nat) (bytes : List UInt8) : ∃ text, replaced written bytes = encode text := by
  induction bytes generalizing written with
  | nil => exact ⟨[],by cases written <;> rfl⟩
  | cons b rest ih =>
    cases written with
    | succ written => exact ih written
    | zero =>
      obtain ⟨text,same⟩ := ih ((decodeRune (b :: rest)).2-1)
      refine ⟨(decodeRune (b :: rest)).1 :: text,?_⟩
      rw [replaced,same,encode,encode,flatMap_cons]

/-- What is valid already stays. -/
theorem toValid_eq_iff : toValid bytes = bytes ↔ ∃ text, bytes = encode text := by
  constructor
  · intro same
    obtain ⟨text,valid⟩ := replaced_eq_encode 0 bytes
    exact ⟨text,same.symm.trans valid⟩
  · rintro ⟨text,rfl⟩
    exact toValid_encode text

theorem toValid_toValid (bytes : List UInt8) : toValid (toValid bytes) = toValid bytes :=
  toValid_eq_iff.mpr (replaced_eq_encode 0 bytes)

end Pilot.Utf8
