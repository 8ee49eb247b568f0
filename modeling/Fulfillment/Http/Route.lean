import Fulfillment.Http.Message
import Fulfillment.Text.Quoted
import Fulfillment.Http.Tree

/-!
# Routes

A route is a method, a path pattern and a target; a pattern segment `:name` is a parameter.
A service keeps one route tree per method (see `Node`).

Routing a request:

* percent escapes in the path of the request URI are decoded (see `PathText`);
* a method with no routes gets a 404; otherwise the path is looked up in the method's tree;
* a lookup that fails but hints at the trailing slash redirects to the path with it dropped (or
  one added), after the prefix a forwarding proxy names in `X-Forwarded-Prefix`: 301 for `GET`,
  307 for every other method, and a `GET` gets a short page with the link;
* otherwise the answer is a 404 with the text `404 page not found`.
-/

namespace Fulfillment.Http

/-- A method, a path pattern (with `:name` for a parameter), and what the route leads to. -/
structure Route (α : Type) where
  method : String
  pattern : String
  target : α

/-- The route trees of a service, one for each method, in the order the methods first come. -/
abbrev Router (α : Type) := List (String × Node α)

/-- The router of a list of routes, each added to its method's tree in order. -/
def Router.ofRoutes {α : Type} (routes : List (Route α)) : Router α :=
  (routes.map (·.method)).eraseDups.map fun m =>
    (m, Node.ofPatterns ((routes.filter (·.method == m)).map fun r => (r.pattern, r.target)))

/-- A text with the characters that are markup in HTML written as entities. -/
def htmlEscape (s : String) : String :=
  String.join <| s.toList.map fun c =>
    if c == '&' then "&amp;"
    else if c == '<' then "&lt;"
    else if c == '>' then "&gt;"
    else if c == '"' then "&#34;"
    else if c.toNat == 39 then "&#39;"
    else String.singleton c

/-- The path and query of a request target: the target is cut at its first `?`, and the query
keeps its `?`, so that a target ending in `?` keeps an empty query that is still written. -/
def splitTarget (target : String) : String × String :=
  match target.splitOn "?" with
  | [] => ("", "")
  | p :: rest => (p, if rest.isEmpty then "" else "?" ++ "?".intercalate rest)

/-- A path with its empty and `.` segments dropped and each `..` taking back the segment before
it; a `..` with nothing before it is dropped from a rooted path and kept in a relative one, and a
relative path with nothing left is `.`. -/
def cleanPath (path : String) : String :=
  if path.isEmpty then "."
  else
    let rooted := path.startsWith "/"
    let kept := (path.splitOn "/").foldl (fun acc seg =>
      if seg.isEmpty || seg == "." then acc
      else if seg == ".." then
        match acc.getLast? with
        | some last => if last == ".." then acc ++ [seg] else acc.dropLast
        | none => if rooted then acc else acc ++ [seg]
      else acc ++ [seg]) []
    let body := "/".intercalate kept
    if rooted then "/" ++ body else if body.isEmpty then "." else body

/-- Runs of slashes made one. -/
def collapseSlashes : List Char → List Char
  | '/' :: tail@('/' :: _) => collapseSlashes tail
  | c :: rest => c :: collapseSlashes rest
  | [] => []

/-- The prefix a forwarding proxy names, as a redirect puts it before the path: cleaned, with
every character but ASCII letters, digits, `/` and `-` removed and runs of slashes made one;
none when the cleaned prefix is `.`, as an empty one is. -/
def forwardedPrefix (header : String) : Option String :=
  let cleaned := cleanPath header
  if cleaned == "." then none
  else
    let safe := cleaned.toList.filter fun c =>
      (c.isAlphanum && c.toNat < 0x80) || c == '/' || c == '-'
    some (String.ofList (collapseSlashes safe))

/-- The directory of a path: the path up to and including its last `/`. -/
def dirOf (path : String) : String :=
  String.ofList (path.toList.reverse.dropWhile (· != '/')).reverse

/-- Where a redirect for the trailing slash sends a request. The path, after the forwarded
prefix and a `/` when there is one, gets its trailing slash dropped, or one added, and is written
with escapes. A URI that names a scheme or a host is written back whole with that path (see
`RequestUri.link`). Otherwise the link is the path and the query: one that starts with two
slashes (and not three) names a host and is sent as it is, and any other is made absolute, a
relative one by putting the directory of the new path before it, and its path part is cleaned,
keeping a trailing slash. -/
def slashLocation (uri : RequestUri) (path : PathText) (pre : Option String) : String :=
  let full : PathText := match pre with
    | some p => PathText.ofText p ++ [.char '/'] ++ path
    | none => path
  let moved : PathText :=
    if full.length > 1 && full.getLast? == some (.char '/') then full.dropLast
    else full ++ [.char '/']
  let written := moved.escaped
  if !uri.relative then uri.link written
  else if written.startsWith "//" && !written.startsWith "///" then written ++ uri.query
  else
    let url := (if written.startsWith "/" then written else dirOf moved.toText ++ written) ++
      uri.query
    let (linkPath, linkQuery) := splitTarget url
    let cleaned := cleanPath linkPath
    let kept := if linkPath.endsWith "/" && !cleaned.endsWith "/" then cleaned ++ "/" else cleaned
    kept ++ linkQuery

/-- Where a request goes. -/
inductive Dispatch (α : Type) where
  | found (target : α) (params : Params)
  | redirect (status : Nat) (location : String)
  | missing

/-- Routes a request by method and request URI, with the prefix a forwarding proxy names. The
method picks a tree, and a method with no tree gets a 404. A route found in the tree takes the
request; otherwise the tree's hint decides between a redirect for the trailing slash (301 for
`GET`, 307 for any other method; never for `/` or `CONNECT`) and a 404. -/
def dispatch {α : Type} (router : Router α) (method : String) (target : RequestUri)
    (forwarded : String) : Dispatch α :=
  let path := PathText.ofEscaped target.path
  match router.lookup method with
  | none => .missing
  | some tree =>
    let found := tree.find path
    match found.target with
    | some (t, ps) => .found t ps
    | none =>
      if found.slash && path != [.char '/'] && method != "CONNECT" then
        .redirect (if method == "GET" then 301 else 307)
          (slashLocation target path (forwardedPrefix forwarded))
      else .missing

/-- The answer to a request no route takes. -/
def notFound : Response := ⟨404, .text "404 page not found"⟩

/-- The answer that redirects a request: a `GET` gets a short page with a link to the new
place, other methods an empty body. -/
def redirectTo (method : String) (status : Nat) (location : String) : Response :=
  if method == "GET" then
    ⟨status, .text ("<a href=\"" ++ htmlEscape location ++ "\">Moved Permanently</a>.\n\n")⟩
  else ⟨status, .none⟩

end Fulfillment.Http
