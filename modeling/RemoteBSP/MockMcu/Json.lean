import Mathlib.Algebra.GroupWithZero.Nat

/-!
# The JSON parser of the board manifests

`JsonParser` of `mock_mcu/src/board_manifest.cpp`, which reads the manifests of boards and the
scenarios of faults: JSON without fractions, exponents, negative numbers and surrogates. The parser
walks over the bytes of the input; a `Cursor` is its position with what is left of the input there.
The functions that call each other, `parse_value`, `parse_array` and `parse_object`, have a bound
here on the depth of their calls, and `parse` gives them all that an input can need
(`parseWithin_eq_parse` of `JsonExact`).
-/

namespace RemoteBSP.MockMcu.Json

/-- The exception that `fail` throws. Its text is the message, `，字节偏移 ` and the position. -/
structure JsonException where
  /-- What was expected, or what was found in its place. -/
  message : String
  /-- The number of bytes that had been read. -/
  position : ℕ
deriving DecidableEq, Repr

/-- `JsonValue`. A `std::map` is a list in the order of its keys. -/
inductive JsonValue
  | null
  | boolean (boolean : Bool)
  | integer (integer : UInt64)
  | string (string : List UInt8)
  | array (array : List JsonValue)
  | object (object : List (List UInt8 × JsonValue))

/-- `input_` from `position_` on, with `position_`. -/
structure Cursor where
  /-- `position_`, the number of bytes that have been read. -/
  position : ℕ
  /-- The bytes that have not been read. -/
  rest : List UInt8
deriving DecidableEq, Repr

/-- What a function of the parser does: it throws, or returns and leaves the cursor somewhere. -/
abbrev Outcome (α : Type) := Except JsonException (α × Cursor)

/-- The quotation mark, which opens and closes a string. -/
abbrev quote : UInt8 := 0x22
/-- The comma, between elements and between members. -/
abbrev comma : UInt8 := 0x2C
/-- The colon, between a key and its value. -/
abbrev colon : UInt8 := 0x3A
/-- The opening bracket of an array. -/
abbrev openBracket : UInt8 := 0x5B
/-- The backslash, with which an escape sequence begins. -/
abbrev backslash : UInt8 := 0x5C
/-- The closing bracket of an array. -/
abbrev closeBracket : UInt8 := 0x5D
/-- The opening brace of an object. -/
abbrev openBrace : UInt8 := 0x7B
/-- The closing brace of an object. -/
abbrev closeBrace : UInt8 := 0x7D

/-- The literal `true`. -/
def trueText : List UInt8 := [0x74, 0x72, 0x75, 0x65]
/-- The literal `false`. -/
def falseText : List UInt8 := [0x66, 0x61, 0x6C, 0x73, 0x65]
/-- The literal `null`. -/
def nullText : List UInt8 := [0x6E, 0x75, 0x6C, 0x6C]

/-- `std::isspace` in the C locale: the space, and the bytes from the tab to the carriage return. -/
def isSpace (byte : UInt8) : Bool := byte = 0x20 ∨ (0x09 ≤ byte ∧ byte ≤ 0x0D)

/-- `std::isdigit`, a decimal digit. -/
def isDigit (byte : UInt8) : Bool := 0x30 ≤ byte ∧ byte ≤ 0x39

namespace Cursor

/-- The cursor some bytes further on. -/
def advance (cursor : Cursor) (count : ℕ) : Cursor :=
  ⟨cursor.position + count, cursor.rest.drop count⟩

/-- `fail`, which throws the message with the position. -/
def fail {α : Type} (cursor : Cursor) (message : String) : Except JsonException α :=
  .error ⟨message, cursor.position⟩

/-- `skip_space`, as far as `std::isspace` says so. -/
def skipSpace (cursor : Cursor) : Cursor :=
  cursor.advance (cursor.rest.takeWhile isSpace).length

/-- `consume`: the cursor behind the byte, if it is there. -/
def consume (cursor : Cursor) (expected : UInt8) : Option Cursor :=
  if cursor.rest.head? = some expected then some (cursor.advance 1) else none

end Cursor

/-- `expect_literal`, to its last byte. -/
def expectLiteral (literal : List UInt8) (cursor : Cursor) : Except JsonException Cursor :=
  if cursor.rest.take literal.length ≠ literal then cursor.fail "JSON 字面量无效"
  else .ok (cursor.advance literal.length)

/-- `append_utf8`: the bytes that it appends. -/
def appendUtf8 (codepoint : UInt32) : List UInt8 :=
  if codepoint ≤ 0x7F then [codepoint.toUInt8]
  else if codepoint ≤ 0x7FF then
    [((0xC0 : UInt32) ||| (codepoint >>> 6)).toUInt8,
      ((0x80 : UInt32) ||| (codepoint &&& 0x3F)).toUInt8]
  else
    [((0xE0 : UInt32) ||| (codepoint >>> 12)).toUInt8,
      ((0x80 : UInt32) ||| ((codepoint >>> 6) &&& 0x3F)).toUInt8,
      ((0x80 : UInt32) ||| (codepoint &&& 0x3F)).toUInt8]

/-- The value of a digit in the loop of `parse_hex4`. -/
def hexDigit (digit : UInt8) : Option UInt32 :=
  if 0x30 ≤ digit ∧ digit ≤ 0x39 then some (digit - 0x30).toUInt32
  else if 0x61 ≤ digit ∧ digit ≤ 0x66 then some (digit - 0x61 + 10).toUInt32
  else if 0x41 ≤ digit ∧ digit ≤ 0x46 then some (digit - 0x41 + 10).toUInt32
  else none

/-- The loop of `parse_hex4`, with the position of the next digit. -/
def hexLoop : ℕ → UInt32 → List UInt8 → Except JsonException UInt32
  | _, value, [] => .ok value
  | position, value, digit :: digits =>
    match hexDigit digit with
    | none => .error ⟨"JSON Unicode 转义包含非十六进制字符", position + 1⟩
    | some digitValue => hexLoop (position + 1) ((value <<< 4) ||| digitValue) digits

/-- The `switch` of `parse_string`, but for `u`: the byte that an escaped byte stands for. -/
def simpleEscape (escaped : UInt8) : Option UInt8 :=
  if escaped = quote ∨ escaped = backslash ∨ escaped = 0x2F then some escaped
  else if escaped = 0x62 then some 0x08
  else if escaped = 0x66 then some 0x0C
  else if escaped = 0x6E then some 0x0A
  else if escaped = 0x72 then some 0x0D
  else if escaped = 0x74 then some 0x09
  else none

/-- The loop of `parse_string` over the bytes up to the closing quotation mark. -/
def stringLoop : ℕ → List UInt8 → List UInt8 → Outcome (List UInt8)
  | position, _, [] => .error ⟨"JSON 字符串没有结束引号", position⟩
  | position, output, current :: rest =>
    if current = quote then .ok (output, ⟨position + 1, rest⟩)
    else if current < 0x20 then .error ⟨"JSON 字符串包含控制字符", position + 1⟩
    else if current ≠ backslash then stringLoop (position + 1) (output ++ [current]) rest
    else
      match rest with
      | [] => .error ⟨"JSON 意外结束", position + 1⟩
      | escaped :: rest =>
        match simpleEscape escaped with
        | some byte => stringLoop (position + 2) (output ++ [byte]) rest
        | none =>
          if escaped ≠ 0x75 then .error ⟨"JSON 字符串转义无效", position + 2⟩
          else
            match rest with
            | a :: b :: c :: d :: rest =>
              match hexLoop (position + 2) 0 [a, b, c, d] with
              | .error exception => .error exception
              | .ok codepoint =>
                if 0xD800 ≤ codepoint ∧ codepoint ≤ 0xDFFF then
                  .error ⟨"板卡描述暂不接受代理项 Unicode 转义", position + 6⟩
                else stringLoop (position + 6) (output ++ appendUtf8 codepoint) rest
            | _ => .error ⟨"JSON Unicode 转义不完整", position + 2⟩

/-- `parse_string`, which begins with the opening quotation mark. -/
def parseString (cursor : Cursor) : Outcome (List UInt8) :=
  match cursor.rest with
  | [] => cursor.fail "JSON 意外结束"
  | byte :: rest =>
    if byte ≠ quote then (cursor.advance 1).fail "JSON 字符串缺少开始引号"
    else stringLoop (cursor.position + 1) [] rest

/-- The number that digits stand for. -/
def decimal (digits : List UInt8) : ℕ :=
  digits.foldl (fun value digit => 10 * value + (digit.toNat - 0x30)) 0

/-- `std::from_chars` of digits, which fails if the number does not fit. -/
def fromChars (digits : List UInt8) : Option UInt64 :=
  if decimal digits < 2^64 then some (.ofNat (decimal digits)) else none

/-- The part of `parse_integer` behind the digits. -/
def finishInteger (digits : List UInt8) (cursor : Cursor) : Outcome JsonValue :=
  if cursor.rest.head?.any fun byte => byte = 0x2E ∨ byte = 0x65 ∨ byte = 0x45 then
    cursor.fail "板卡描述不允许小数或指数"
  else
    match fromChars digits with
    | none => cursor.fail "JSON 整数超出范围"
    | some value => .ok (.integer value, cursor)

/-- `parse_integer`, which refuses a sign and a leading zero. -/
def parseInteger (cursor : Cursor) : Outcome JsonValue :=
  match cursor.consume 0x2D with
  | some cursor => cursor.fail "板卡描述只允许非负整数"
  | none =>
    match cursor.consume 0x30 with
    | some behind =>
      if behind.rest.head?.any isDigit then behind.fail "JSON 整数不能包含前导零"
      else finishInteger [0x30] behind
    | none =>
      if cursor.rest.head?.any fun byte => 0x31 ≤ byte ∧ byte ≤ 0x39 then
        let digits := cursor.rest.takeWhile isDigit
        finishInteger digits (cursor.advance digits.length)
      else cursor.fail "JSON 整数无效"

/-- `std::map::emplace`: whether the key is new, and the map. -/
def emplace {α : Type} (key : List UInt8) (value : α) :
    List (List UInt8 × α) → Bool × List (List UInt8 × α)
  | [] => (true, [(key, value)])
  | member :: members =>
    if key < member.1 then (true, (key, value) :: member :: members)
    else if key = member.1 then (false, member :: members)
    else
      let (inserted, members) := emplace key value members
      (inserted, member :: members)

mutual

/-- `parse_value`, by its first byte. -/
def parseValue : ℕ → Cursor → Outcome JsonValue
  | 0, cursor => cursor.fail ""
  | fuel + 1, cursor =>
    match cursor.rest with
    | [] => cursor.fail "JSON 意外结束"
    | byte :: _ =>
      if byte = openBrace then
        -- `parse_object`.
        let behind := (cursor.advance 1).skipSpace
        match behind.consume closeBrace with
        | some behind => .ok (.object [], behind)
        | none => objectLoop fuel [] behind
      else if byte = openBracket then
        -- `parse_array`.
        let behind := (cursor.advance 1).skipSpace
        match behind.consume closeBracket with
        | some behind => .ok (.array [], behind)
        | none => arrayLoop fuel [] behind
      else if byte = quote then
        match parseString cursor with
        | .error exception => .error exception
        | .ok (string, behind) => .ok (.string string, behind)
      else if byte = 0x74 then
        match expectLiteral trueText cursor with
        | .error exception => .error exception
        | .ok behind => .ok (.boolean true, behind)
      else if byte = 0x66 then
        match expectLiteral falseText cursor with
        | .error exception => .error exception
        | .ok behind => .ok (.boolean false, behind)
      else if byte = 0x6E then
        match expectLiteral nullText cursor with
        | .error exception => .error exception
        | .ok behind => .ok (.null, behind)
      else parseInteger cursor

/-- The loop of `parse_array` over its elements. -/
def arrayLoop : ℕ → List JsonValue → Cursor → Outcome JsonValue
  | 0, _, cursor => cursor.fail ""
  | fuel + 1, array, cursor =>
    match parseValue fuel cursor.skipSpace with
    | .error exception => .error exception
    | .ok (value, behind) =>
      let behind := behind.skipSpace
      match behind.consume closeBracket with
      | some behind => .ok (.array (array ++ [value]), behind)
      | none =>
        match behind.consume comma with
        | some behind => arrayLoop fuel (array ++ [value]) behind
        | none => behind.fail "JSON 数组元素之间缺少逗号"

/-- The loop of `parse_object` over its members. -/
def objectLoop : ℕ → List (List UInt8 × JsonValue) → Cursor → Outcome JsonValue
  | 0, _, cursor => cursor.fail ""
  | fuel + 1, object, cursor =>
    let start := cursor.skipSpace
    if start.rest.head? ≠ some quote then start.fail "JSON 对象键必须是字符串"
    else
      match parseString start with
      | .error exception => .error exception
      | .ok (key, behind) =>
        let behind := behind.skipSpace
        match behind.consume colon with
        | none => behind.fail "JSON 对象键之后缺少冒号"
        | some behind =>
          match parseValue fuel behind.skipSpace with
          | .error exception => .error exception
          | .ok (value, behind) =>
            match emplace key value object with
            | (false, _) => behind.fail "JSON 对象包含重复键"
            | (true, object) =>
              let behind := behind.skipSpace
              match behind.consume closeBrace with
              | some behind => .ok (.object object, behind)
              | none =>
                match behind.consume comma with
                | some behind => objectLoop fuel object behind
                | none => behind.fail "JSON 对象成员之间缺少逗号"

end

/-- `parse`, with a bound on the depth of the calls. -/
def parseWithin (fuel : ℕ) (input : List UInt8) : Except JsonException JsonValue :=
  match parseValue fuel (Cursor.mk 0 input).skipSpace with
  | .error exception => .error exception
  | .ok (value, behind) =>
    let behind := behind.skipSpace
    if behind.rest ≠ [] then behind.fail "JSON 根值之后存在多余内容" else .ok value

/-- `parse`. An array or an object takes two calls more for at least one byte. -/
def parse (input : List UInt8) : Except JsonException JsonValue :=
  parseWithin (2 * input.length + 1) input

end RemoteBSP.MockMcu.Json
