import Stencil.Partial.Registry
import Stencil.Script

/-!
# Sample data: a blog

Ten posts by two authors in turn, five collections, and three partials that render them.
-/

namespace Stencil.Sample

structure Post where
  id : Nat
  body : String
  author : String

def authors : List String := ["David Heinemeier Hansson", "Pavel Pravosud"]

def posts : List Post :=
  (List.range' 1 10).map fun id =>
    ⟨id, "post body " ++ toString id, authors.getD ((id - 1) % 2) ""⟩

def Post.toJson (post : Post) : Json :=
  .obj [("id", .num (.int post.id)), ("body", .str post.body), ("author_name", .str post.author)]

def Post.cacheKey (post : Post) : Cache.KeyExpr :=
  .record ("blog_posts/" ++ toString post.id) none

def collections : List Json :=
  (List.range' 1 5).map fun (id : Nat) =>
    .obj [("id", .num (.int id)), ("name", .str ("collection " ++ toString id))]

/-- The words of a name up to its first space and after it. -/
def splitName (name : String) : String × Option String :=
  let chars := name.toList
  let first := String.ofList (chars.takeWhile (· ≠ ' '))
  match chars.dropWhile (· ≠ ' ') with
  | [] => (first, none)
  | _ :: rest => (first, some (String.ofList rest))

def greeting : Template := fun _ =>
  Script.toBlock (.object (.set "content" (.str "hello")))

/-- A post with its author's first and last name. -/
def blogPost : Template := fun locals => Script.toBlock do
  let post ← .ofExcept (locals.require "blog_post")
  Script.object do
    Script.extract post ["id", "body"]
    let author := match post.get? "author_name" with
      | some (.str name) => splitName name
      | _ => splitName ""
    Script.child "author" (.object do
      Script.set "first_name" (.str author.1)
      Script.set "last_name" (author.2.elim .null .str))

/-- A collection with its name. -/
def collection : Template := fun locals => Script.toBlock do
  let collection ← .ofExcept (locals.require "collection")
  Script.object (.extract collection ["id", "name"])

def partials : Partial.Registry Template :=
  .ofList [("_partial", greeting), ("_blog_post", blogPost), ("_collection", collection)]

end Stencil.Sample
