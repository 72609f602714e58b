import SaiAgent.Library.Lines
import SaiAgent.Model.Message

/-!
# The SAI profile

The profile of `saiagent.c`: a file of `name=value` lines is parsed into a list of parameters, which
SAI looks up and enumerates through two services.

A file is its bytes. Of the C library the model has `fgets`, whose successive reads are
`Lines.reads`, and the one format `sscanf` is called with; `fopen` and each `calloc` may fail. A
string stored past the end of its field is `Fault.outOfBounds`. A pointer into the parameter list is
the list from that parameter on. C strings are their bytes before the terminator.
-/

namespace SaiAgent

open Effects Effects.Lines

/-- `PARAM_NAME_LEN`. -/
def paramNameLen : ℕ := 128

/-- `PARAM_VALUE_LEN`. -/
def paramValueLen : ℕ := 256

/-- `PARAM_MAX_LINE_SIZE`. -/
def paramMaxLineSize : ℕ := paramNameLen + paramValueLen + 16

/-- `struct param`, whose fields hold strings with their terminators. -/
structure Param where
  name : List UInt8
  value : List UInt8
  name_lt : name.length < paramNameLen
  value_lt : value.length < paramValueLen
  deriving DecidableEq, Repr

/-! ### Reading a line -/

/-- `'\n'`. -/
def newline : UInt8 := 10

/-- The byte that ends a line for `fgets`. -/
def endsLine (b : UInt8) : Bool := b = newline

/-- The most `fgets(line, PARAM_MAX_LINE_SIZE - 1, f)` reads: one byte is for the terminator. -/
def lineRoom : ℕ := paramMaxLineSize - 1 - 1

/-- The lines successive calls of `fgets` read from a file, until one returns NULL. -/
def fgetsAll (file : List UInt8) : List (List UInt8) := reads endsLine lineRoom file

/-! ### The format `"%[a-z_A-Z0-9]=%[^#\\n\\r]"` -/

/-- `'='`. -/
def equalsSign : UInt8 := 61

/-- The bytes of the scanset `[a-z_A-Z0-9]`. -/
def nameByte (b : UInt8) : Bool :=
  (97 ≤ b && b ≤ 122) || b = 95 || (65 ≤ b && b ≤ 90) || (48 ≤ b && b ≤ 57)

/-- The bytes of the scanset `[^#\n\r]`. -/
def valueByte (b : UInt8) : Bool := b ≠ 35 && b ≠ newline && b ≠ 13

/-- The C string in a buffer. -/
def cString (buf : List UInt8) : List UInt8 := buf.takeWhile (· ≠ 0)

/-- The strings `sscanf(line, "%[a-z_A-Z0-9]=%[^#\n\r]", ...)` stores, in order. What it returns is
their number, or EOF where the line is empty. -/
def sscanfParam (line : List UInt8) : List (List UInt8) :=
  let name := (cString line).takeWhile nameByte
  if name = [] then
    []
  else
    match (cString line).dropWhile nameByte with
    | [] => [name]
    | b :: rest =>
      if b ≠ equalsSign then
        [name]
      else
        let value := rest.takeWhile valueByte
        -- a scanset matches at least one byte
        if value = [] then [name] else [name, value]

/-- The parameter of a line, with the strings `sscanf` stores of it: none where they are less than
two. -/
def storeParam : List (List UInt8) → Except Fault (Option Param)
  | [] => .ok none
  | [name] => if name.length < paramNameLen then .ok none else .error .outOfBounds
  | name :: value :: _ =>
    if hname : name.length < paramNameLen then
      if hvalue : value.length < paramValueLen then
        .ok (some ⟨name, value, hname, hvalue⟩)
      else
        .error .outOfBounds
    else
      .error .outOfBounds

/-! ### Parsing -/

/-- The loop of `sai_profile_parse`, over the lines `fgets` still reads and the parameters so far:
the parameters at its end, or none where it returns from inside. `calloc` tells of each
allocation whether it succeeds. -/
def parseLines (calloc : ℕ → Bool) :
    List (List UInt8) → List Param → Except Fault (Option (List Param))
  | [], params => .ok (some params)
  | line :: lines, params =>
    if !calloc params.length then
      .ok none
    else
      match storeParam (sscanfParam line) with
      | .error e => .error e
      | .ok none => .ok none
      | .ok (some param) => parseLines calloc lines (param :: params)

/-- `sai_profile_parse` of a file, `none` where `fopen` fails: its status and what it stores through
`params`, if it does. -/
def saiProfileParse (file : Option (List UInt8)) (calloc : ℕ → Bool) :
    Except Fault (Rc × Option (List Param)) :=
  match file with
  | none => .ok (rcStatusErr, none)
  | some f =>
    match parseLines calloc (fgetsAll f) [] with
    | .error e => .error e
    -- a line that does not parse is logged, and RC_STATUS_OK returned
    | .ok none => .ok (rcStatusOk, none)
    | .ok (some params) => .ok (rcStatusOk, some params)

/-! ### The services -/

/-- `sai_profile_get_value` over `g_profile_params`; a null `variable` is `none`, and so is the
null pointer it returns. -/
def saiProfileGetValue (params : List Param) (varName : Option (List UInt8)) :
    Option (List UInt8) :=
  match varName with
  | none => none
  | some name => (params.find? fun it ↦ it.name = name).map Param.value

/-- `sai_profile_get_next_value` over `g_profile_params` and `g_iter`; the flag is whether
`variable` is not null. Returned are its status, the parameter whose name and value are stored, and
`g_iter` afterwards. -/
def saiProfileGetNextValue (params iter : List Param) (varPtr : Bool) :
    Int32 × Option Param × List Param :=
  if !varPtr then
    (-1, none, params)
  else
    match iter with
    | [] => (-1, none, params)
    | param :: next => (0, some param, next)

/-- A call of one of the services. -/
inductive ProfileCall where
  | getValue (varName : Option (List UInt8))
  /-- The flag is whether `variable` is not null. -/
  | getNextValue (varPtr : Bool)
  deriving DecidableEq, Repr

/-- `g_iter` after these calls. -/
def iterAfter (params : List Param) : List Param → List ProfileCall → List Param
  | iter, [] => iter
  | iter, .getValue _ :: calls => iterAfter params iter calls
  | iter, .getNextValue varPtr :: calls =>
    iterAfter params (saiProfileGetNextValue params iter varPtr).2.2 calls

/-- A call with what it returned. -/
inductive ProfileEvent where
  | value (varName answer : Option (List UInt8))
  | next (varPtr : Bool) (status : Int32) (param : Option Param)
  deriving DecidableEq, Repr

/-- A history of calls, from a position of `g_iter`. -/
def profileHistory (params : List Param) : List Param → List ProfileCall → List ProfileEvent
  | _, [] => []
  | iter, .getValue varName :: calls =>
    .value varName (saiProfileGetValue params varName) :: profileHistory params iter calls
  | iter, .getNextValue varPtr :: calls =>
    let (status, param, iter') := saiProfileGetNextValue params iter varPtr
    .next varPtr status param :: profileHistory params iter' calls

end SaiAgent
