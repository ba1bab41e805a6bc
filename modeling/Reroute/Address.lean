/-
  Socket addresses: reading them from text and writing them.
  Of the zeros of a long address the longest run of at least two groups is left out, the first
  of equal ones.
-/
import Reroute.Text.Numeral
import Reroute.Text.Blank
import Reroute.Text.CharSet

namespace Reroute

inductive Ip
  /-- Four bytes. -/
  | v4 (bytes : List Nat)
  /-- Eight groups of 16 bits. -/
  | v6 (groups : List Nat)
deriving DecidableEq, Repr

namespace Ip

open Reroute.Text

def joinWith (mark : List Char) : List (List Char) → List Char
  | [] => []
  | [piece] => piece
  | piece :: rest => piece ++ mark ++ joinWith mark rest

def writeV4 (bytes : List Nat) : List Char :=
  joinWith ['.'] (bytes.map fun n => (toString n).toList)

def writeGroups (groups : List Nat) : List Char :=
  joinWith [':'] (groups.map (Nat.toDigits 16))

/-- Start and length of the longest run of zeros, the first of equal ones. -/
def longestZeros (groups : List Nat) : Nat × Nat :=
  let runs := (List.range groups.length).map fun i =>
    (i, ((groups.drop i).takeWhile (· == 0)).length)
  runs.foldl (fun best run => if best.2 < run.2 then run else best) (0, 0)

def write : Ip → String
  | .v4 bytes => String.ofList (writeV4 bytes)
  | .v6 [0, 0, 0, 0, 0, 0xFFFF, high, low] =>
    String.ofList ("::ffff:".toList ++ writeV4 [high / 256, high % 256, low / 256, low % 256])
  | .v6 groups =>
    let (start, count) := longestZeros groups
    if 1 < count then
      String.ofList (writeGroups (groups.take start) ++ [':', ':'] ++
        writeGroups (groups.drop (start + count)))
    else String.ofList (writeGroups groups)

/-- One byte of a dotted address: no leading zero, at most three digits. -/
def readByte? (cs : List Char) : Option Nat :=
  if cs.isEmpty || 3 < cs.length || (1 < cs.length && cs.head? = some '0') then none
  else (readDigits 255 0 cs).toOption

def readV4? (cs : List Char) : Option (List Nat) :=
  let pieces := splitAll '.' cs
  if pieces.length = 4 then pieces.mapM readByte? else none

/-- A group of one to four hexadecimal digits. -/
def readGroup? (cs : List Char) : Option Nat :=
  if cs.isEmpty || 4 < cs.length then none
  else (cs.mapM CharSet.hexDigit?).map fun ds => ds.foldl (fun n d => n * 16 + d) 0

/-- Groups between colons; the last may be a dotted address. -/
def readGroups? (cs : List Char) : Option (List Nat) :=
  if cs.isEmpty then some []
  else pieces (splitAll ':' cs)
where
  pieces : List (List Char) → Option (List Nat)
    | [] => some []
    | [piece] =>
      match readGroup? piece with
      | some g => some [g]
      | none =>
        match readV4? piece with
        | some [a, b, c, d] => some [a * 256 + b, c * 256 + d]
        | _ => none
    | piece :: rest => do
      let g ← readGroup? piece
      let gs ← pieces rest
      some (g :: gs)

def readV6? (cs : List Char) : Option (List Nat) :=
  match splitAtText? [':', ':'] cs with
  | none => (readGroups? cs).bind fun gs => if gs.length = 8 then some gs else none
  | some (before, after) => do
    let head ← readGroups? before
    let tail ← readGroups? after
    -- a dotted address stands at the end only
    if before.contains '.' then none
    else if head.length + tail.length < 8 then
      some (head ++ List.replicate (8 - head.length - tail.length) 0 ++ tail)
    else none

end Ip

structure SocketAddress where
  ip : Ip
  port : Nat
  /-- The zone of a link-local address; zero is none. -/
  zone : Nat := 0
deriving DecidableEq, Repr

/-- Why a text is no socket address. -/
inductive AddressError
  | invalidAddress
  | invalidPort
  | missingAddress
  /-- The text names a host that would have to be looked up. -/
  | needsLookup
deriving DecidableEq, Repr

def AddressError.message : AddressError → String
  | .invalidAddress => "invalid socket address"
  | .invalidPort => "invalid port value"
  | .missingAddress => "missing socket address"
  | .needsLookup => "failed to lookup address information"

namespace SocketAddress

open Reroute.Text

def write (a : SocketAddress) : String :=
  match a.ip with
  | .v4 _ => a.ip.write ++ ":" ++ toString a.port
  | .v6 _ =>
    let zone := if a.zone = 0 then "" else "%" ++ toString a.zone
    "[" ++ a.ip.write ++ zone ++ "]:" ++ toString a.port

/-- Decimal digits, any number of them, for a number of at most `bound`. -/
def readPlain? (bound : Nat) (cs : List Char) : Option Nat :=
  if cs.isEmpty then none else (readDigits bound 0 cs).toOption

def readPort? (cs : List Char) : Option Nat := readPlain? 65535 cs

def readZoned? (cs : List Char) : Option (Ip × Nat) :=
  match splitFirst? (· == '%') cs with
  | none => (Ip.readV6? cs).map fun gs => (.v6 gs, 0)
  | some (address, zone) => do
    let gs ← Ip.readV6? address
    let z ← readPlain? (Nat.pow 2 32 - 1) zone
    some (.v6 gs, z)

/-- Reads an address that is written in full. -/
def read? (s : String) : Option SocketAddress :=
  match s.toList with
  | '[' :: rest => do
    let (inner, after) ← splitFirst? (· == ']') rest
    match after with
    | ':' :: port => do
      let (ip, zone) ← readZoned? inner
      let n ← readPort? port
      some ⟨ip, n, zone⟩
    | _ => none
  | cs => do
    let (ip, port) ← splitFirst? (· == ':') cs
    let bytes ← Ip.readV4? ip
    let n ← readPort? port
    some ⟨.v4 bytes, n, 0⟩

/-- Reads an address. What is no address in full has to have a port after its last colon, and
names a host. -/
def read (s : String) : Except AddressError SocketAddress :=
  match read? s with
  | some a => .ok a
  | none =>
    match splitFirst? (· == ':') s.toList.reverse with
    | none => .error .invalidAddress
    | some (port, _) =>
      match readNat 65535 (String.ofList port.reverse) with
      | .ok _ => .error .needsLookup
      | .error _ => .error .invalidPort

end SocketAddress

end Reroute
