import AppConfig.Net.Url.Host

/-!
# AppConfig.Net.Url

Resource locators in their one written form, so that two spellings of a place are one key.

* The scheme and the host are in lower case, dot segments are resolved, the usual port is left out,
  and what may not stand for itself is escaped byte by byte.
* A locator without a scheme means nothing by itself.
-/

namespace AppConfig.Net.Url

/-- Controls and spaces at the ends do not count, nor do tabs and breaks anywhere. -/
def clean (cs : List Char) : List Char :=
  let outer (c : Char) : Bool := c.toNat ≤ 0x20
  ((cs.dropWhile outer).reverse.dropWhile outer).reverse.filter fun c =>
    c != '\t' && c != '\n' && c != '\r'

def isSchemeChar (c : Char) : Bool := c.isAlphanum || c == '+' || c == '-' || c == '.'

/-- The scheme in lower case, and the text behind its colon. -/
def scheme? (cs : List Char) : Option (List Char × List Char) :=
  if cs.head?.any Char.isAlpha then
    match cs.dropWhile isSchemeChar with
    | ':' :: rest => some ((cs.takeWhile isSchemeChar).map Char.toLower, rest)
    | _ => none
  else none

/-! ### The tail -/

def isTailMark (c : Char) : Bool := c == '?' || c == '#'

/-- A text cut before its query and its fragment. -/
def cutTail (cs : List Char) : List Char × List Char :=
  (cs.takeWhile (!isTailMark ·), cs.dropWhile (!isTailMark ·))

/-- The query and the fragment in their written form. -/
def writeTail (kind : Kind) (cs : List Char) : List Char :=
  let reserved := if kind == .other then queryReserved else '\'' :: queryReserved
  let query := match cs.takeWhile (· != '#') with
    | [] => []
    | mark :: body => mark :: escape reserved body
  let fragment := match cs.dropWhile (· != '#') with
    | [] => []
    | mark :: body => mark :: escape fragmentReserved body
  query ++ fragment

/-- A path and a tail behind what is written already. -/
def writeRest (kind : Kind) (t : Trail) (cs : List Char) : Trail × List Char :=
  let (body, tail) := cutTail cs
  (t.write kind body, writeTail kind tail)

/-! ### The authority -/

/-- The part before the last `@` of an authority, if there is one, and all the text behind it. -/
def cutUser (kind : Kind) (cs : List Char) : Option (List Char) × List Char :=
  let authority := cs.takeWhile fun c => !kind.isSlash c && !isTailMark c
  let place := (authority.reverse.takeWhile (· != '@')).length
  if place = authority.length then (none, cs)
  else
    let user := authority.length - place - 1
    (some (cs.take user), cs.drop (user + 1))

/-- A user name and a password in their written form. -/
def writeUser : Option (List Char) → List Char
  | none => []
  | some user =>
    match Text.cut? ':' user with
    | some (name, []) => if name.isEmpty then [] else escape userReserved name ++ ['@']
    | some (name, password) =>
      escape userReserved name ++ ':' :: escape userReserved password ++ ['@']
    | none => if user.isEmpty then [] else escape userReserved user ++ ['@']

/-- Where a host ends: at a colon outside brackets or at the end of the authority. -/
def hostLength (kind : Kind) (inside : Bool) : List Char → Nat
  | [] => 0
  | c :: rest =>
    if kind.isSlash c || isTailMark c || (c == ':' && !inside) then 0
    else hostLength kind (if c == '[' then true else if c == ']' then false else inside) rest + 1

/-- A path behind an authority. Only a scheme that knows nothing of hosts has empty paths. -/
def startPath (kind : Kind) (cs : List Char) : Trail × List Char :=
  match kind, cs with
  | .other, [] => (⟨[], true⟩, [])
  | .other, c :: rest =>
    if isTailMark c then (⟨[], true⟩, writeTail kind (c :: rest))
    else if c == '/' then writeRest kind ⟨[], true⟩ (c :: rest)
    else writeRest kind ⟨['/'], true⟩ (c :: rest)
  | _, [] => writeRest kind ⟨['/'], true⟩ []
  | _, c :: rest => writeRest kind ⟨['/'], true⟩ (if kind.isSlash c then rest else c :: rest)

/-- A port in its written form, and the text behind it. -/
def portAndRest (kind : Kind) (cs : List Char) : Except Fault (List Char × List Char) :=
  match cs with
  | ':' :: rest => writePort kind rest
  | _ => .ok ([], cs)

/-- The text behind `//`: an authority, a path and a tail. -/
def writeHosted (kind : Kind) (cs : List Char) : Except Fault (List Char) :=
  let (user, place) := cutUser kind cs
  let ends := place.head?.any fun c => kind.isSlash c || isTailMark c
  if user == some [] && ends then .error .emptyHost
  else
    let user := writeUser user
    let length := hostLength kind false place
    let behind := place.drop length
    match writeHost kind (place.take length) with
    | .error e => .error e
    | .ok host =>
      if host.isEmpty && behind.head? == some ':' then .error .emptyHost
      else
        match portAndRest kind behind with
        | .error e => .error e
        | .ok (port, rest) =>
          if host.isEmpty && !user.isEmpty then .error .emptyHost
          else
            let (t, tail) := startPath kind rest
            .ok (['/', '/'] ++ user ++ host ++ port ++ t.path ++ tail)

/-! ### Whole locators -/

/-- The text behind `file://`: a host, a path and a tail. This machine needs no name, and a path
that begins with a drive letter has no host. -/
def writeFileHost (cs : List Char) : Except Fault (List Char) :=
  let host := cs.takeWhile fun c => !Kind.file.isSlash c && !isTailMark c
  let rest := cs.drop host.length
  if isDrive host then
    let (t, tail) := writeRest .file ⟨['/'], false⟩ cs
    .ok (t.path ++ tail)
  else if host.isEmpty then
    let (t, tail) := writeRest .file ⟨[], false⟩ rest
    .ok (t.path ++ tail)
  else
    match writeHost .file host with
    | .error e => .error e
    | .ok host =>
      let isLocal := host == "localhost".toList
      let (t, tail) :=
        if isLocal then writeRest .file ⟨[], false⟩ rest else startPath .file rest
      .ok ((if t.keepsHost then host else []) ++ t.path ++ tail)

/-- The text behind `file:`. -/
def writeFile (cs : List Char) : Except Fault (List Char) :=
  let body := match cs with
    | a :: rest@(b :: rest') =>
      if Kind.file.isSlash a && Kind.file.isSlash b then writeFileHost rest'
      else
        let (t, tail) := writeRest .file ⟨['/'], false⟩ (if Kind.file.isSlash a then rest else cs)
        .ok (t.path ++ tail)
    | _ =>
      let (t, tail) := writeRest .file ⟨['/'], false⟩ (cs.dropWhile Kind.file.isSlash)
      .ok (t.path ++ tail)
  body.map (['/', '/'] ++ ·)

/-- The text behind the colon of a scheme that knows nothing of hosts. A path that begins with two
slashes is kept apart from a host by a dot. -/
def writeOther (cs : List Char) : Except Fault (List Char) :=
  match cs with
  | '/' :: '/' :: rest => writeHosted .other rest
  | '/' :: rest =>
    let (t, tail) := writeRest .other ⟨['/'], true⟩ rest
    let guard := if ['/', '/'].isPrefixOf t.path then ['/', '.'] else []
    .ok (guard ++ t.path ++ tail)
  | _ =>
    let (body, tail) := cutTail cs
    .ok (escape [] body ++ writeTail .other tail)

/-- The written form of a locator. -/
def parse (cs : List Char) : Except Fault String :=
  match scheme? (clean cs) with
  | none => .error .relative
  | some (scheme, rest) =>
    let kind := Kind.ofScheme scheme
    let body := match kind with
      | .file => writeFile rest
      | .hosted _ => writeHosted kind (rest.dropWhile kind.isSlash)
      | .other => writeOther rest
    body.map fun text => String.ofList (scheme ++ ':' :: text)

end AppConfig.Net.Url
