/-
  Url texts: a url splits at its first question mark into a target and a query, and an absolute
  target into scheme, authority and path.
-/
import Reroute.Text.Blank

namespace Reroute.Url

open Reroute.Text

/-- The target and the query of a url; without a question mark the query is empty. -/
def splitQuery (url : String) : String × String :=
  match splitFirst? (· == '?') url.toList with
  | some (target, query) => (String.ofList target, String.ofList query)
  | none => (url, "")

/-- A url with a query behind it. An empty query leaves no trace. -/
def joinQuery (url query : String) : String :=
  if query.isEmpty then url
  else url ++ (if url.toList.contains '?' then "&" else "?") ++ query

/-- Two queries as one; an empty one leaves no trace. -/
def joinQueries (first second : String) : String :=
  if first.isEmpty then second
  else if second.isEmpty then first
  else first ++ "&" ++ second

/-- The parts of an absolute target. -/
structure Origin where
  scheme : String
  host : String
  path : String
deriving DecidableEq, Repr

def isSchemeChar (c : Char) : Bool := c.isAlphanum || c == '+' || c == '-' || c == '.'

/-- The parts of a target that begins with a scheme and an authority. -/
def splitOrigin? (target : String) : Option Origin :=
  match splitAtText? [':', '/', '/'] target.toList with
  | none => none
  | some (scheme, rest) =>
    if scheme.isEmpty || !scheme.all isSchemeChar then none
    else
      some ⟨String.ofList scheme, String.ofList (rest.takeWhile (· != '/')),
        String.ofList (rest.dropWhile (· != '/'))⟩

example : splitOrigin? "http://h/p" = some ⟨"http", "h", "/p"⟩ := by cbv
example : splitQuery "/a?b?c" = ("/a", "b?c") := by cbv

end Reroute.Url
