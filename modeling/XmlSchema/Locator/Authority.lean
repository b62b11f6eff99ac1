import XmlSchema.Locator.Host
import XmlSchema.Locator.Route

/-!
# Authorities of URLs

What stands between two slashes and the path: a user with a password, a host
and a port.  The written form leaves out what is empty and the default port of
the scheme.
-/

namespace XmlSchema

/-- The default ports of the schemes of the web. -/
def webPorts : List (String × Nat) :=
  [("http", 80), ("https", 443), ("ws", 80), ("wss", 443), ("ftp", 21)]

/-- The kind of a scheme. -/
def SchemeKind.ofScheme (scheme : String) : SchemeKind :=
  if scheme = "file" then .file
  else if (webPorts.lookup scheme).isSome then .web
  else .other

namespace Authority

/-- Whether a character ends an authority. -/
def isEnd (special : Bool) (c : Char) : Bool := Route.isSlash special c || c = '?' || c = '#'

/-- Split at the last occurrence of a character. -/
def splitAtLast (sep : Char) (cs : List Char) : Option (List Char × List Char) :=
  (Text.splitAtFirst sep cs.reverse).map fun p => (p.2.reverse, p.1.reverse)

/-- The written form of a user and a password. -/
def credentials (cs : List Char) : List Char :=
  let (user, password) := (Text.splitAtFirst ':' cs).getD (cs, [])
  let encode := Percent.encode Percent.userSet
  let text := encode user ++ (if password.isEmpty then [] else ':' :: encode password)
  if text.isEmpty then [] else text ++ ['@']

/-- The credentials at the front of a text, and the rest.  An empty user needs
a host behind it. -/
def readCredentials? (special : Bool) (cs : List Char) : Option (List Char × List Char) :=
  match splitAtLast '@' (cs.takeWhile (!isEnd special ·)) with
  | none => some ([], cs)
  | some (user, _) =>
      let rest := cs.drop (user.length + 1)
      if user.isEmpty && rest.head?.any (isEnd special) then none
      else some (credentials user, rest)

/-- Split behind a host, which ends at a colon outside of brackets. -/
def splitHost (special inside : Bool) : List Char → List Char × List Char
  | [] => ([], [])
  | c :: rest =>
      if isEnd special c || (c = ':' && !inside) then ([], c :: rest)
      else
        let inside := c = '[' || (inside && c != ']')
        let (host, rest) := splitHost special inside rest
        (c :: host, rest)

/-- The written form of the port at the front of a text, and the rest. -/
def readPort? (scheme : String) (cs : List Char) : Option (List Char × List Char) :=
  match cs with
  | ':' :: cs =>
      let digits := cs.takeWhile Char.isDigit
      let rest := cs.dropWhile Char.isDigit
      let port := digits.foldl (fun n d => n * 10 + (d.toNat - '0'.toNat)) 0
      if 65535 < port || !rest.head?.all (isEnd true) then none
      else if digits.isEmpty || webPorts.lookup scheme == some port then some ([], rest)
      else some (':' :: (toString port).toList, rest)
  | cs => some ([], cs)

/-- The written form of the authority at the front of a text, and the rest. -/
def read? (scheme : String) (cs : List Char) : Option (String × List Char) := do
  let special := (SchemeKind.ofScheme scheme).isSpecial
  let (user, rest) ← readCredentials? special cs
  let (hostText, rest) := splitHost special false rest
  let host ← Host.parse? special hostText
  if host.isEmpty && (!user.isEmpty || rest.head? == some ':') then none
  else
    let (port, rest) ← readPort? scheme rest
    return (String.ofList user ++ host ++ String.ofList port, rest)

end Authority

end XmlSchema
