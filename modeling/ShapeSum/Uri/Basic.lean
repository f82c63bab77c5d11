import ShapeSum.Uri.Address

/-!
# The parts of a URI

A URI is split into scheme, authority, path, query and fragment, and put together
again.  The authority mark `//` is written for an authority that is not empty, and
for every scheme that is known to have one unless the path itself starts with the
mark.  So splitting and putting together may change a URI of an unknown scheme.
-/

namespace ShapeSum.Uri

open ShapeSum.Text (cut splitOn uptoLast afterLast)

/-- What is wrong with a URI. -/
inductive Fault where
  /-- A bracket of the authority has no partner. -/
  | unbalanced
  /-- The bracketed host is no address of a future version. -/
  | futureAddress
  /-- The bracketed host is an address of version four. -/
  | address4
  /-- The bracketed host is no address at all. -/
  | address (host : String)
  /-- The authority holds a character that stands for a delimiter. -/
  | delimiter (authority : String)

/-- The wording of a fault. -/
def Fault.message : Fault → String
  | .unbalanced => "Invalid IPv6 URL"
  | .futureAddress => "IPvFuture address is invalid"
  | .address4 => "An IPv4 address cannot be in brackets"
  | .address host => s!"'{host}' does not appear to be an IPv4 or IPv6 address"
  | .delimiter authority =>
    s!"netloc '{authority}' contains invalid characters under NFKC normalization"

/-- The parts of a URI.  `parameters` are split off the last path segment only where a function
says so. -/
structure Parts where
  /-- The scheme, in small letters; empty if there is none. -/
  scheme : List Char
  /-- The authority; empty if there is none. -/
  authority : List Char
  /-- The path. -/
  path : List Char
  /-- The parameters of the last path segment. -/
  parameters : List Char
  /-- The query. -/
  query : List Char
  /-- The fragment. -/
  fragment : List Char

/-- Schemes whose references are resolved against a base. -/
def relativeSchemes : List String :=
  ["", "ftp", "http", "gopher", "nntp", "imap", "wais", "file", "https", "shttp", "mms",
   "prospero", "rtsp", "rtsps", "rtspu", "sftp", "svn", "svn+ssh", "ws", "wss"]

/-- Schemes that have an authority. -/
def authoritySchemes : List String :=
  ["", "ftp", "http", "gopher", "nntp", "telnet", "imap", "wais", "file", "mms", "https", "shttp",
   "snews", "prospero", "rtsp", "rtsps", "rtspu", "rsync", "svn", "svn+ssh", "sftp", "nfs", "git",
   "git+ssh", "ws", "wss"]

/-- Schemes whose last path segment may have parameters. -/
def parameterSchemes : List String :=
  ["", "ftp", "hdl", "prospero", "http", "imap", "https", "shttp", "rtsp", "rtsps", "rtspu",
   "sip", "sips", "mms", "sftp", "tel"]

/-- Whether a scheme is in a list. -/
def listed (schemes : List String) (scheme : List Char) : Bool :=
  schemes.any (·.toList == scheme)

/-- Whether a character may stand in a scheme. -/
def isSchemeChar (c : Char) : Bool := c.isAlphanum || c == '+' || c == '-' || c == '.'

/-- The scheme at the start of a URI, in small letters, and the text after its colon. -/
def splitScheme (s : List Char) : List Char × List Char :=
  match cut ':' s with
  | (c :: cs, some rest) =>
    if c.isAlpha && cs.all isSchemeChar then ((c :: cs).map Char.toLower, rest) else ([], s)
  | _ => ([], s)

/-- The authority after the mark `//`, and what follows. -/
def splitAuthority (s : List Char) : List Char × List Char :=
  match s with
  | '/' :: '/' :: rest =>
    let inside (c : Char) : Bool := c != '/' && c != '?' && c != '#'
    (rest.takeWhile inside, rest.dropWhile inside)
  | s => ([], s)

/-- Characters whose compatibility form holds one of the delimiters of a URI. -/
def delimiterForms : List Nat :=
  [0x2047, 0x2048, 0x2049, 0x2100, 0x2101, 0x2105, 0x2106, 0x2A74, 0xFE13, 0xFE16, 0xFE55,
   0xFE56, 0xFE5F, 0xFE6B, 0xFF03, 0xFF0F, 0xFF1A, 0xFF1F, 0xFF20]

/-- The fault of an authority, if it has one. -/
def authorityFault? (authority : List Char) : Option Fault :=
  let opens := authority.contains '['
  let closes := authority.contains ']'
  if opens != closes then some .unbalanced
  else
    let host := (cut ']' ((cut '[' authority).2.getD [])).1
    if opens && host.head? == some 'v' && !isFutureAddress host then some .futureAddress
    else if opens && host.head? != some 'v' && isAddress4 host then some .address4
    else if opens && host.head? != some 'v' && !isAddress6 host then
      some (.address (String.ofList host))
    else if authority.any fun c => delimiterForms.contains c.toNat then
      some (.delimiter (String.ofList authority))
    else none

/-- Splits a URI; parameters stay in the path.  Control characters and blanks at the start are
passed over, and tabs and line breaks anywhere. -/
def split (s : List Char) : Except Fault Parts :=
  let s := (s.dropWhile fun c => decide (c.toNat ≤ 0x20)).filter fun c =>
    c != '\t' && c != '\r' && c != '\n'
  let (scheme, rest) := splitScheme s
  let (authority, rest) := splitAuthority rest
  match authorityFault? authority with
  | some f => .error f
  | none =>
    let (rest, fragment) := cut '#' rest
    let (path, query) := cut '?' rest
    .ok ⟨scheme, authority, path, [], query.getD [], fragment.getD []⟩

/-- Splits the parameters off the last path segment, for a scheme that has them. -/
def Parts.splitParameters (p : Parts) : Parts :=
  if listed parameterSchemes p.scheme then
    let (path, parameters) := cut ';' (afterLast '/' p.path)
    { p with path := uptoLast '/' p.path ++ path, parameters := parameters.getD [] }
  else p

/-- Puts a URI together. -/
def Parts.unsplit (p : Parts) : List Char :=
  let path := if p.parameters.isEmpty then p.path else p.path ++ ';' :: p.parameters
  let marked := !p.authority.isEmpty ||
    (!p.scheme.isEmpty && listed authoritySchemes p.scheme && path.take 2 != ['/', '/'])
  let path := if marked then
      '/' :: '/' :: (p.authority ++
        (if path.isEmpty || path.head? == some '/' then path else '/' :: path))
    else path
  let path := if p.scheme.isEmpty then path else p.scheme ++ ':' :: path
  let path := if p.query.isEmpty then path else path ++ '?' :: p.query
  if p.fragment.isEmpty then path else path ++ '#' :: p.fragment

/-- A reference split into its document and its fragment.  One without a `#` is left as it
is. -/
def splitFragment (s : List Char) : Except Fault (List Char × List Char) :=
  if s.contains '#' then
    (split s).map fun p => ({ p.splitParameters with fragment := [] }.unsplit, p.fragment)
  else .ok (s, [])

end ShapeSum.Uri
