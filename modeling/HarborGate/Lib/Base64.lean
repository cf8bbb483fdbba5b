/-!
Base64 with the standard alphabet and canonical padding. Decoding is strict: the padding has to be
there, and the bits it stands for have to be zero.
-/

namespace Base64

def symbol (value : Nat) : Char :=
  if value < 26 then Char.ofNat (value + 65)
  else if value < 52 then Char.ofNat (value + 71)
  else if value < 62 then Char.ofNat (value - 4)
  else if value = 62 then '+'
  else '/'

def value? (c : Char) : Option Nat :=
  let code := c.toNat
  if 65 ≤ code ∧ code ≤ 90 then some (code - 65)
  else if 97 ≤ code ∧ code ≤ 122 then some (code - 71)
  else if 48 ≤ code ∧ code ≤ 57 then some (code + 4)
  else if c = '+' then some 62
  else if c = '/' then some 63
  else none

def encodeChars : List UInt8 → List Char
  | [] => []
  | [x] => [symbol (x.toNat / 4), symbol (x.toNat % 4 * 16), '=', '=']
  | [x, y] =>
      [symbol (x.toNat / 4), symbol (x.toNat % 4 * 16 + y.toNat / 16), symbol (y.toNat % 16 * 4), '=']
  | x :: y :: z :: rest =>
      symbol (x.toNat / 4) :: symbol (x.toNat % 4 * 16 + y.toNat / 16) ::
        symbol (y.toNat % 16 * 4 + z.toNat / 64) :: symbol (z.toNat % 64) :: encodeChars rest

def byte (value : Nat) : UInt8 :=
  UInt8.ofNat value

def decodeGroup (a b c d : Char) : Option (List UInt8) := do
  let x ← value? a
  let y ← value? b
  let z ← value? c
  let w ← value? d
  return [byte (x * 4 + y / 16), byte (y % 16 * 16 + z / 4), byte (z % 4 * 64 + w)]

/-- The last four symbols, which may be padded. -/
def decodeLast (a b c d : Char) : Option (List UInt8) :=
  if d = '=' then
    if c = '=' then do
      let x ← value? a
      let y ← value? b
      if y % 16 = 0 then some [byte (x * 4 + y / 16)] else none
    else do
      let x ← value? a
      let y ← value? b
      let z ← value? c
      if z % 4 = 0 then some [byte (x * 4 + y / 16), byte (y % 16 * 16 + z / 4)] else none
  else decodeGroup a b c d

def decodeChars : List Char → Option (List UInt8)
  | [] => some []
  | a :: b :: c :: d :: rest =>
      if rest = [] then decodeLast a b c d
      else do
        let group ← decodeGroup a b c d
        let more ← decodeChars rest
        return group ++ more
  | _ => none

def encode (bytes : List UInt8) : String :=
  String.ofList (encodeChars bytes)

def decode (text : String) : Option (List UInt8) :=
  decodeChars text.toList

/-! ## Symbols -/

theorem symbol_facts : ∀ value < 64, value? (symbol value) = some value ∧ symbol value ≠ '=' ∧
    (symbol value).utf8Size = 1 := by
  decide

theorem value?_symbol {value : Nat} (bound : value < 64) : value? (symbol value) = some value :=
  (symbol_facts value bound).1

theorem symbol_ne_padding {value : Nat} (bound : value < 64) : symbol value ≠ '=' :=
  (symbol_facts value bound).2.1

theorem symbol_size {value : Nat} (bound : value < 64) : (symbol value).utf8Size = 1 :=
  (symbol_facts value bound).2.2

theorem byte_eq {x : UInt8} {value : Nat} (same : value = x.toNat) : byte value = x := by
  subst same
  exact UInt8.ofNat_toNat

section Digits

variable (x y z : UInt8)

theorem first_bound : x.toNat / 4 < 64 := by
  have bound := x.toNat_lt
  omega

theorem second_bound : x.toNat % 4 * 16 + y.toNat / 16 < 64 := by
  have bound := y.toNat_lt
  omega

theorem third_bound : y.toNat % 16 * 4 + z.toNat / 64 < 64 := by
  have bound := z.toNat_lt
  omega

theorem fourth_bound : z.toNat % 64 < 64 := by
  omega

end Digits

/-! ## Round trip -/

theorem decodeChars_group {a b c d : Char} {rest : List Char} {group : List UInt8}
    (full : d ≠ '=') (decoded : decodeGroup a b c d = some group) :
    decodeChars (a :: b :: c :: d :: rest) = (decodeChars rest).map (group ++ ·) := by
  by_cases last : rest = []
  · subst last
    simp [decodeChars, decodeLast, full, decoded]
  · simp only [decodeChars, if_neg last, decoded]
    cases decodeChars rest <;> rfl

theorem decodeGroup_some {a b c d : Char} {x y z w : Nat} (first : value? a = some x)
    (second : value? b = some y) (third : value? c = some z) (fourth : value? d = some w) :
    decodeGroup a b c d =
      some [byte (x * 4 + y / 16), byte (y % 16 * 16 + z / 4), byte (z % 4 * 64 + w)] := by
  simp [decodeGroup, first, second, third, fourth]

theorem decodeLast_one {a b : Char} {x y : Nat} (first : value? a = some x)
    (second : value? b = some y) (padded : y % 16 = 0) :
    decodeLast a b '=' '=' = some [byte (x * 4 + y / 16)] := by
  simp [decodeLast, first, second, padded]

theorem decodeLast_two {a b c : Char} {x y z : Nat} (first : value? a = some x)
    (second : value? b = some y) (third : value? c = some z) (symbol : c ≠ '=')
    (padded : z % 4 = 0) :
    decodeLast a b c '=' = some [byte (x * 4 + y / 16), byte (y % 16 * 16 + z / 4)] := by
  simp [decodeLast, first, second, third, symbol, padded]

theorem decodeChars_encodeChars (bytes : List UInt8) :
    decodeChars (encodeChars bytes) = some bytes := by
  fun_induction encodeChars bytes with
  | case1 => rfl
  | case2 x =>
      have second : x.toNat % 4 * 16 < 64 := by omega
      rw [decodeChars, if_pos rfl,
        decodeLast_one (value?_symbol (first_bound x)) (value?_symbol second) (by omega)]
      rw [byte_eq (x := x) (by omega)]
  | case3 x y =>
      have third : y.toNat % 16 * 4 < 64 := by omega
      have bound := y.toNat_lt
      rw [decodeChars, if_pos rfl, decodeLast_two (value?_symbol (first_bound x))
        (value?_symbol (second_bound x y)) (value?_symbol third) (symbol_ne_padding third)
        (by omega)]
      rw [byte_eq (x := x) (by omega), byte_eq (x := y) (by omega)]
  | case4 x y z rest ih =>
      have group := decodeGroup_some (value?_symbol (first_bound x))
        (value?_symbol (second_bound x y)) (value?_symbol (third_bound y z))
        (value?_symbol (fourth_bound z))
      have yBound := y.toNat_lt
      have zBound := z.toNat_lt
      rw [byte_eq (x := x) (by omega), byte_eq (x := y) (by omega),
        byte_eq (x := z) (by omega)] at group
      rw [decodeChars_group (symbol_ne_padding (fourth_bound z)) group, ih]
      rfl

theorem decode_encode (bytes : List UInt8) : decode (encode bytes) = some bytes := by
  simp only [decode, encode, String.toList_ofList]
  exact decodeChars_encodeChars bytes

/-! ## Length -/

theorem encodeChars_length (bytes : List UInt8) :
    (encodeChars bytes).length = 4 * ((bytes.length + 2) / 3) := by
  fun_induction encodeChars bytes with
  | case1 | case2 | case3 => simp
  | case4 x y z rest ih =>
      simp only [List.length_cons, ih]
      omega

theorem encodeChars_size (bytes : List UInt8) : ∀ c ∈ encodeChars bytes, c.utf8Size = 1 := by
  have padding : '='.utf8Size = 1 := by decide
  fun_induction encodeChars bytes with
  | case1 => simp
  | case2 x =>
      have second : x.toNat % 4 * 16 < 64 := by omega
      simp [padding, symbol_size (first_bound x), symbol_size second]
  | case3 x y =>
      have third : y.toNat % 16 * 4 < 64 := by omega
      simp [padding, symbol_size (first_bound x), symbol_size (second_bound x y), symbol_size third]
  | case4 x y z rest ih =>
      intro c member
      simp only [List.mem_cons] at member
      rcases member with rfl | rfl | rfl | rfl | later
      · exact symbol_size (first_bound x)
      · exact symbol_size (second_bound x y)
      · exact symbol_size (third_bound y z)
      · exact symbol_size (fourth_bound z)
      · exact ih c later

/-- The length in bytes of a text in which every character takes one. -/
theorem utf8ByteSize_of_single {chars : List Char} (single : ∀ c ∈ chars, c.utf8Size = 1) :
    (String.ofList chars).utf8ByteSize = chars.length := by
  induction chars with
  | nil => rfl
  | cons c rest ih =>
      have parts : String.ofList (c :: rest) = String.singleton c ++ String.ofList rest := by
        apply String.ext
        simp
      rw [parts, String.utf8ByteSize_append, String.utf8ByteSize_singleton,
        ih fun d member => single d (List.mem_cons_of_mem _ member),
        single c List.mem_cons_self, List.length_cons]
      omega

theorem encode_size (bytes : List UInt8) :
    (encode bytes).utf8ByteSize = 4 * ((bytes.length + 2) / 3) := by
  rw [encode, utf8ByteSize_of_single (encodeChars_size bytes), encodeChars_length]

example : encode [77, 97, 110, 63] = "TWFuPw==" := by decide

example : decode "TWFuPx==" = none := by decide

end Base64
