import ContentGateway.DomainName
import ContentGateway.Url.Percent

/-!
# Hosts

The host of a URL: a domain name, an address of four bytes, or an address of eight
pieces of sixteen bits.  Every spelling of an address is read; one is written.
-/

namespace ContentGateway

inductive Host where
  /-- A name; empty where a URL names no host. -/
  | domain (name : String)
  | ipv4 (address : Nat)
  | ipv6 (pieces : List Nat)
  deriving DecidableEq, Repr

namespace Host

/-!
# Addresses of four bytes
-/

/-- A part of an address: octal after a zero, hexadecimal after `0x`, else decimal. -/
def ipv4Part? : List Char -> Option Nat
  | [] => none
  | '0' :: 'x' :: digits => inBase? 16 digits
  | '0' :: 'X' :: digits => inBase? 16 digits
  | '0' :: d :: digits => inBase? 8 (d :: digits)
  | digits => inBase? 10 digits

/-- The value of parts: each is a byte, only the last one fills all the bytes that are left. -/
def ipv4Value? : Nat -> List Nat -> Option Nat
  | _, [] => none
  | room, [last] => if last < Nat.pow 256 room then some last else none
  | room, part :: rest =>
      if part < 256 then (ipv4Value? (room - 1) rest).map fun n => part * Nat.pow 256 (room - 1) + n
      else none

/-- The labels of a name without the empty one behind a final dot. -/
def labels (name : List Char) : List (List Char) :=
  let parts := splitBy (· == '.') name
  if parts.getLast? == some [] then parts.dropLast else parts

/-- The last label of a name is a number, so the name has to be an address. -/
def endsInNumber (name : List Char) : Bool :=
  match (labels name).getLast? with
  | none => false
  | some label => (!label.isEmpty && label.all Char.isDigit) || (ipv4Part? label).isSome

def ipv4? (name : List Char) : Option Nat := do
  let parts := labels name
  if parts.length > 4 then none
  else ipv4Value? 4 (← parts.mapM ipv4Part?)

/-!
# Addresses of eight pieces
-/

/-- A piece: one to four hexadecimal digits. -/
def piece? (digits : List Char) : Option Nat :=
  if digits.isEmpty || digits.length > 4 then none else inBase? 16 digits

/-- A byte in decimal without leading zeros. -/
def octet? (digits : List Char) : Option Nat :=
  if digits.isEmpty || digits.length > 3 || (digits.length > 1 && digits.head? == some '0') then
    none
  else (inBase? 10 digits).filter (· < 256)

/-- Four bytes with dots between them make two pieces. -/
def dotted? (text : List Char) : Option (List Nat) :=
  match (splitBy (· == '.') text).mapM octet? with
  | some [a, b, c, d] => some [a * 256 + b, c * 256 + d]
  | _ => none

/-- Pieces with colons between them; at the end of an address, four bytes may stand for two. -/
def pieces? (atEnd : Bool) (text : List Char) : Option (List Nat) :=
  if text.isEmpty then some []
  else
    let parts := splitBy (· == ':') text
    let last := parts.getLastD []
    if atEnd && last.contains '.' then do
      pure ((← parts.dropLast.mapM piece?) ++ (← dotted? last))
    else parts.mapM piece?

/-- What stands before and after the first two colons in a row. -/
def splitGap : List Char -> Option (List Char × List Char)
  | ':' :: ':' :: rest => some ([], rest)
  | c :: rest => (splitGap rest).map fun p => (c :: p.1, p.2)
  | [] => none

def ipv6? (text : List Char) : Option (List Nat) :=
  match splitGap text with
  | none => (pieces? true text).filter fun ps => ps.length == 8
  | some (before, after) => do
      let front ← pieces? false before
      let back ← pieces? true after
      let count := front.length + back.length
      if count < 8 then some (front ++ List.replicate (8 - count) 0 ++ back) else none

/-- The place and length of the first among the longest runs of zeros. -/
def longestGap (pieces : List Nat) : Nat × Nat :=
  let runs := (List.range pieces.length).map fun i =>
    (i, ((pieces.drop i).takeWhile (· == 0)).length)
  runs.foldl (fun best run => if best.2 < run.2 then run else best) (0, 0)

/-- Pieces in lower case digits; the longest run of two or more zeros is left out. -/
def ipv6Text (pieces : List Nat) : String :=
  let written (ps : List Nat) : String :=
    String.intercalate ":" (ps.map fun p => String.ofList (Nat.toDigits 16 p))
  let gap := longestGap pieces
  if gap.2 < 2 then written pieces
  else written (pieces.take gap.1) ++ "::" ++ written (pieces.drop (gap.1 + gap.2))

def ipv4Text (address : Nat) : String :=
  String.intercalate "." ([16777216, 65536, 256, 1].map fun unit => toString (address / unit % 256))

/-!
# Hosts as they are written
-/

/-- The address between square brackets. -/
def bracketed? (text : List Char) : Option (List Nat) :=
  if text.getLast? == some ']' then ipv6? text.dropLast else none

/-- The host of a URL with a special scheme; it may not be empty. -/
def ofSpecial? : List Char -> Option Host
  | '[' :: rest => (bracketed? rest).map ipv6
  | text => do
      let name ← DomainName.written? (← Utf8.decode? (Percent.decode text))
      if name.isEmpty then none
      else if endsInNumber name then (ipv4? name).map ipv4
      else some (.domain (String.ofList name))

/-- The host of any other URL, which is kept as it is. -/
def ofOther? : List Char -> Option Host
  | '[' :: rest => (bracketed? rest).map ipv6
  | text =>
      if text.any fun c => DomainName.isReserved c || c.toNat == 0 then none
      else some (.domain (String.ofList (Percent.encode Percent.inControls text)))

def display : Host -> String
  | .domain name => name
  | .ipv4 address => ipv4Text address
  | .ipv6 pieces => "[" ++ ipv6Text pieces ++ "]"

end Host
end ContentGateway
