import CallAtlas.Number.Reading
import CallAtlas.Text.Basic
import CallAtlas.Text.Case
import CallAtlas.Text.Encoding
import CallAtlas.Text.Word

/-! Locations as they are written, and the paths that they lead to on the server at hand. -/
namespace CallAtlas.Http.Location

private def isSchemePart (c : Char) : Bool :=
  c.isAlphanum || c == '+' || c == '.' || c == '-'

private def splitScheme (cs : List Char) : List Char × List Char :=
  let scheme := cs.takeWhile isSchemePart
  match cs.dropWhile isSchemePart with
  | ':' :: rest =>
    if scheme.isEmpty || scheme.head?.any Char.isAlpha then (scheme, rest) else ([], cs)
  | _ => ([], cs)

private def endsAuthority (c : Char) : Bool :=
  c == '/' || c == '?' || c == '#'

private def splitAuthority : List Char → List Char × List Char
  | '/' :: '/' :: rest => (rest.takeWhile (!endsAuthority ·), rest.dropWhile (!endsAuthority ·))
  | cs => ([], cs)

private def afterLast (test : Char → Bool) (cs : List Char) : List Char :=
  (cs.reverse.takeWhile (!test ·)).reverse

/-- Host and port, without the user in front of an at sign. Colons within brackets belong to the
host. -/
private def hostAndPort (authority : List Char) : List Char × List Char :=
  let cs := afterLast (· == '@') authority
  let inBrackets := (cs.reverse.dropWhile (· != ']')).reverse
  let host := if cs.head? = some '[' && !inBrackets.isEmpty then inBrackets
    else cs.takeWhile (· != ':')
  let rest := cs.drop host.length
  (host, if rest.head? = some ':' then rest.drop 1 else rest)

private def areNumbers : Nat → List Char → Bool
  | 0, cs => !cs.isEmpty && cs.all Char.isDigit
  | n + 1, cs => (List.range cs.length).any fun i =>
      0 < i && (cs.take i).all Char.isDigit && areNumbers n (cs.drop (i + 1))

private def isByte (cs : List Char) : Bool :=
  !cs.isEmpty && cs.length ≤ 3 && cs.all Char.isDigit && (cs.length == 1 || cs.head? != some '0')
    && Text.digitsValue cs ≤ 255

private def isFourBytes (cs : List Char) : Bool :=
  let bytes := Text.parts (· == '.') cs
  bytes.length == 4 && bytes.all isByte

private def isGroup (cs : List Char) : Bool :=
  !cs.isEmpty && cs.length ≤ 4 && cs.all fun c => (Text.hexValue? c).isSome

/-- Eight groups of hexadecimal digits, or fewer with a gap of two colons. The last two groups may be
written as four bytes, and a zone may follow a percent sign. -/
private def isGroups (cs : List Char) : Bool :=
  let address := cs.takeWhile (· != '%')
  let zone := (cs.dropWhile (· != '%')).tail?
  let written := Text.parts (· == ':') address
  let last := written.getLast?.getD []
  let groups := if last.contains '.' then written.dropLast ++ [['0'], ['0']] else written
  let gaps := ((groups.drop 1).dropLast.filter List.isEmpty).length
  let begins := groups.head? == some []
  let ends := groups.getLast? == some []
  let count := (groups.filter (!·.isEmpty)).length
  zone.all (fun z => !z.isEmpty && !z.contains '%') && (!last.contains '.' || isFourBytes last)
    && 3 ≤ written.length && groups.length ≤ 9 && gaps ≤ 1
    && (groups.filter (!·.isEmpty)).all isGroup
    && (if gaps = 1 then (!begins || (groups.drop 1).head? == some [])
          && (!ends || groups.dropLast.getLast? == some []) && count < 8
      else !begins && !ends && count == 8)

def withoutDots (path : List Char) : List Char :=
  let kept := (Text.parts (· == '/') path).foldl (fun (done : List (List Char)) part =>
    if part = ['.'] then done
    else if part = ['.', '.'] then (if done = [[]] then done else done.drop 1)
    else part :: done) []
  ['/'].intercalate kept.reverse

/-- A percent sign and two digits stand for a byte. No path on the server has bytes beyond ASCII, so
one of those is as good as another. -/
def unescaped : List Char → List Char
  | '%' :: a :: b :: cs =>
    match Text.hexValue? a, Text.hexValue? b with
    | some x, some y =>
      (if 16 * x + y < 128 then Char.ofNat (16 * x + y) else '\ufffd') :: unescaped cs
    | _, _ => '%' :: unescaped (a :: b :: cs)
  | c :: cs => c :: unescaped cs
  | [] => []

private def isUnprintable (c : Char) : Bool :=
  decide (c.toNat < 32) || c.toNat == 127

private def quoted (cs : List Char) : String :=
  String.ofList (Text.quoted cs)

def longest : Nat := 65536

private def isPlain (c : Char) : Bool :=
  c.isAlphanum || c == '_' || c == '.' || c == '-' || c == '~'

/-- The length of a text as it is written in a query: a blank takes one character, and a byte that
has to be escaped takes three. -/
def writtenLength (text : String) : Nat :=
  text.toList.foldl (fun n c => n + if isPlain c || c == ' ' then 1 else 3 * c.utf8Size) 0

def checkQuery (params : List (String × String)) : Except Failure Unit := do
  params.forM fun (name, value) => do
    Text.Encoding.checkWritable name
    Text.Encoding.checkWritable value
  let size := params.foldl (fun n (name, value) =>
    n + writtenLength name + writtenLength value + 2) 0
  if longest + 1 < size then throw (.locationInvalid "URL component 'query' too long") else pure ()

structure Written where
  scheme : List Char
  host : List Char
  port : List Char
  path : List Char
deriving Inhabited

namespace Written

def isComplete (w : Written) : Bool :=
  !w.scheme.isEmpty && !w.host.isEmpty

private def checkHost (host : List Char) : Except Failure Unit := do
  let isKnown (c : Char) : Bool := c.toNat < 128 || Text.isWord c
  if areNumbers 3 host then
    if !isFourBytes host then throw (.locationInvalid ("Invalid IPv4 address: " ++ quoted host))
  else if host.head? = some '[' then
    if !isGroups ((host.drop 1).dropLast) then
      throw (.locationInvalid ("Invalid IPv6 address: " ++ quoted host))
  else if !host.all isKnown then
    throw (.locationInvalid ("Invalid IDNA hostname: " ++ quoted host))

private def checkPath (path : List Char) : Except Failure Unit :=
  match path with
  | '/' :: '/' :: _ =>
    throw (.locationInvalid "Relative URLs cannot have a path starting with '//'")
  | ':' :: _ => throw (.locationInvalid "Relative URLs cannot have a path starting with ':'")
  | _ => pure ()

def ofLocation (location : String) : Except Failure Written := do
  let cs := location.toList
  if longest < cs.length then throw (.locationInvalid "URL too long")
  if let some i := cs.findIdx? isUnprintable then
    throw (.locationInvalid ("Invalid non-printable ASCII character in URL, "
      ++ quoted ((cs.drop i).take 1) ++ s!" at position {i}."))
  let (scheme, rest) := splitScheme cs
  let (authority, rest) := splitAuthority rest
  let (host, port) := hostAndPort authority
  checkHost host
  if !port.isEmpty && (Number.readInteger? port).isNone then
    throw (.locationInvalid ("Invalid port: " ++ quoted port))
  let path := rest.takeWhile fun c => c != '?' && c != '#'
  if scheme.isEmpty && authority.all (fun c => c == '@' || c == ':') then checkPath path
  return ⟨Text.lower scheme, host, port, path⟩

def plainPath (w : Written) : List Char :=
  let plain := withoutDots (if w.isComplete then w.path else '/' :: w.path.dropWhile (· == '/'))
  if plain.isEmpty then ['/'] else plain

def servedSchemes : List (List Char) :=
  ["http".toList, "https".toList, "ws".toList, "wss".toList]

/-- Refuses locations that the server at hand cannot take apart: those with another scheme, and those
with colons in the host. -/
def checkServed (w : Written) : Except Failure Unit := do
  if w.isComplete then
    if !servedSchemes.contains w.scheme then throw (.columnMissing (String.ofList w.scheme))
    if w.host.head? = some '[' then
      let port := if w.port.isEmpty then [] else ':' :: w.port
      throw (.notInteger (String.ofList (((w.host ++ port).dropWhile (· != ':')).drop 1)))

end Written

def ofJson : Json → Except Failure String
  | .text s => pure s
  | value => throw (.notLocation value)

def sentPath (location : String) : Except Failure String := do
  return String.ofList (unescaped (← Written.ofLocation location).plainPath)

def path (location : String) : Except Failure String := do
  let w ← Written.ofLocation location
  w.checkServed
  return String.ofList (unescaped (unescaped w.plainPath))

end CallAtlas.Http.Location
