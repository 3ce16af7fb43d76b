import BrowserControl.Json.Token

/-!
# Reading Documents

A document is read token by token.  The reader keeps the brackets that are open, with what has been read
inside each, and what it is ready for next.  The first token it is not ready for decides what is reported,
at the place of that token; the end of the text counts as a token that is never welcome inside a
value.  Brackets may be nested up to `nestingLimit`.
-/

namespace BrowserControl.Json

/-- How many brackets may be open at the same time.  Every open bracket is one call deep, so this is what
is left of the depth of calls; the value is the one for a load from the top of a program, and it is smaller
where the caller is deeper already. -/
def nestingLimit : Nat := 985

/-- An open bracket inside which a value is being read, with what has been read before that value, latest
first; in an object, the key that awaits the value as well. -/
inductive Frame where
  | array (items : List Value)
  | object (members : Members Value) (key : List Text.CodePoint)

/-- What the reader is ready for.  While a key is awaited, the members read so far are kept here, latest
first. -/
inductive Expectation where
  | value
  | firstItem
  | firstKey
  | key (members : Members Value)
  | colon (members : Members Value) (key : List Text.CodePoint)
  | separator (value : Value)

/-- How far the reader is: the open brackets around the next value, innermost first, and what it is ready
for. -/
structure Reading where
  frames : List Frame
  expectation : Expectation

namespace Reading

def start : Reading :=
  ⟨[], .value⟩

def opened (frames : List Frame) (bracket : Bracket) : Except Problem Reading :=
  if nestingLimit ≤ frames.length then .error (.nestedTooDeep bracket)
  else
    match bracket with
    | .array => .ok ⟨.array [] :: frames, .firstItem⟩
    | .object => .ok ⟨frames, .firstKey⟩

/-- Go on from a token where a value is welcome. -/
def acceptValue (frames : List Frame) (offset : Nat) : Token → Except Problem Reading
  | .opening bracket => opened frames bracket
  | .text value => .ok ⟨frames, .separator (.text value)⟩
  | .single value => .ok ⟨frames, .separator value⟩
  | .bad problem => .error problem
  | .closing _ | .comma | .colon => .error (.malformed .noValue offset)

/-- Go on from a token where a key is welcome.  Only a text that is itself malformed is reported as such. -/
def acceptKey (frames : List Frame) (members : Members Value) (offset : Nat) :
    Token → Except Problem Reading
  | .text key => .ok ⟨frames, .colon members key⟩
  | .bad (.malformed complaint place) =>
    .error (.malformed (if complaint = .noValue then .noKey else complaint) place)
  | _ => .error (.malformed .noKey offset)

def acceptSeparator (frames : List Frame) (value : Value) (offset : Nat) (token : Token) :
    Except Problem Reading :=
  match frames, token with
  | .array items :: outer, .comma => .ok ⟨.array (value :: items) :: outer, .value⟩
  | .array items :: outer, .closing .array =>
    .ok ⟨outer, .separator (.array (value :: items).reverse)⟩
  | .object members key :: outer, .comma => .ok ⟨outer, .key ((key, value) :: members)⟩
  | .object members key :: outer, .closing .object =>
    .ok ⟨outer, .separator (.object ((key, value) :: members).reverse)⟩
  | _ :: _, _ => .error (.malformed .noComma offset)
  | [], _ => .error (.malformed .extraText offset)

def step (reading : Reading) (lexeme : Lexeme) : Except Problem Reading :=
  match reading.expectation, lexeme.token with
  | .firstItem, .closing .array => .ok ⟨reading.frames.drop 1, .separator (.array [])⟩
  | .firstItem, token | .value, token => acceptValue reading.frames lexeme.offset token
  | .firstKey, .closing .object => .ok ⟨reading.frames, .separator (.object [])⟩
  | .firstKey, token => acceptKey reading.frames [] lexeme.offset token
  | .key members, token => acceptKey reading.frames members lexeme.offset token
  | .colon members key, .colon => .ok ⟨.object members key :: reading.frames, .value⟩
  | .colon _ _, _ => .error (.malformed .noColon lexeme.offset)
  | .separator value, token => acceptSeparator reading.frames value lexeme.offset token

/-- The value that has been read when the text ends at an offset. -/
def finish (offset : Nat) (reading : Reading) : Except Problem Value :=
  match reading.expectation, reading.frames with
  | .separator value, [] => .ok value
  | .separator _, _ :: _ => .error (.malformed .noComma offset)
  | .value, _ | .firstItem, _ => .error (.malformed .noValue offset)
  | .firstKey, _ | .key _, _ => .error (.malformed .noKey offset)
  | .colon _ _, _ => .error (.malformed .noColon offset)

end Reading

def read? (text : List Char) : Except Problem Value :=
  if text.head? = some '\ufeff' then .error (.malformed .byteOrderMark 0)
  else do
    let reading ← (lexemes 0 0 text).foldlM Reading.step Reading.start
    reading.finish text.length

/-- The value that a text holds, or the failure that reports why it holds none. -/
def parse (text : List Char) : Except Failure Value :=
  (read? text).mapError (Problem.failure text)

end BrowserControl.Json
