import ContentGateway.Http.Header
import ContentGateway.Text.Pieces

/-!
# Media types

What kind of content a message carries: a type and a subtype, perhaps with a suffix
that names its syntax, and parameters.  All but the values of parameters is in lower
case, and the value of the character set is too.
-/

namespace ContentGateway

structure MediaType where
  type : String
  subtype : String
  suffix : Option String
  parameters : List (String × String)
  /-- The whole text. -/
  text : String
  deriving DecidableEq, Repr

namespace MediaType

/-- The characters of a quoted value. -/
def isQuotable (c : Char) : Bool :=
  0x20 ≤ c.toNat && c.toNat ≠ 0x7F

/-- A parameter: its name, its value, its text in normal form, and the text behind it. -/
structure Parameter where
  name : String
  value : String
  text : List Char
  rest : List Char

/-- The value in normal form. -/
def valueText (name : String) (value : List Char) : List Char :=
  if name == "charset" then value.map asciiLower else value

/-- A value between quotes, which is not empty, and the text behind it. -/
def quotedValue? : List Char -> Option (List Char × List Char)
  | [] => none
  | c :: text => (splitFirst '"' text).map fun p => (c :: p.1, p.2)

/-- A value between quotes may hold separators; only blanks may follow it. -/
def quotedParameter? (name : String) (text : List Char) : Option Parameter :=
  match quotedValue? text with
  | none => none
  | some (value, rest) =>
      let blanks := rest.takeWhile (· == ' ')
      let normal := valueText name value
      let written := name.toList ++ ['=', '"'] ++ normal ++ ['"'] ++ blanks
      if !value.all isQuotable then none
      else
        match rest.dropWhile (· == ' ') with
        | [] => some ⟨name, String.ofList normal, written, []⟩
        | ';' :: rest => some ⟨name, String.ofList normal, written, ';' :: rest⟩
        | _ => none

def parameter? (text : List Char) : Option Parameter :=
  match splitFirst '=' text with
  | none => none
  | some (name, rest) =>
      if name.isEmpty || !name.all Http.isToken then none
      else
        let name := asciiLowerCase (String.ofList name)
        match rest with
        | '"' :: quoted => quotedParameter? name quoted
        | _ =>
            let value := rest.takeWhile (· != ';')
            let rest := rest.dropWhile (· != ';')
            if !value.all Http.isToken || (value.isEmpty && !rest.isEmpty) then none
            else
              let normal := valueText name value
              some ⟨name, String.ofList normal, name.toList ++ '=' :: normal, rest⟩

/-- Parameters, each behind a semicolon and blanks; a semicolon may end them. -/
def parameters? : Nat -> List Char -> Option (List (String × String) × List Char)
  | 0, _ => some ([], [])
  | _ + 1, [] => some ([], [])
  | count + 1, _ :: text =>
      let blanks := text.takeWhile (· == ' ')
      let text := text.dropWhile (· == ' ')
      if text.isEmpty then some ([], ';' :: blanks)
      else do
        let p ← parameter? text
        let (others, written) ← parameters? count p.rest
        pure ((p.name, p.value) :: others, ';' :: blanks ++ p.text ++ written)

/-- The subtype and the suffix behind its last plus sign. -/
def splitSuffix (text : List Char) : String × Option String :=
  match splitLast '+' text with
  | some (subtype, suffix) =>
      if subtype.isEmpty then (String.ofList text, none)
      else (String.ofList subtype, some (String.ofList suffix))
  | none => (String.ofList text, none)

def parse? (text : String) : Option MediaType := do
  let essence := text.toList.takeWhile (· != ';')
  let (type, subtype) ← splitFirst '/' essence
  if type.isEmpty || subtype.isEmpty || !type.all Http.isToken || !subtype.all Http.isToken then none
  else
    let (parameters, written) ← parameters? text.length (text.toList.dropWhile (· != ';'))
    let lower (t : List Char) : List Char := t.map asciiLower
    let written := if parameters.isEmpty then [] else written
    let (subtype, suffix) := splitSuffix (lower subtype)
    pure ⟨String.ofList (lower type), subtype, suffix, parameters,
      String.ofList (lower essence ++ written)⟩

/-- The syntax is that of JSON. -/
def isJson (m : MediaType) : Bool :=
  m.type == "application" && (m.subtype == "json" || m.suffix == some "json")

def isForm (m : MediaType) : Bool :=
  m.type == "multipart" && m.subtype == "form-data"

end MediaType
end ContentGateway
