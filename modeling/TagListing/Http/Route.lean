import TagListing.Http.Access
import TagListing.Http.PathPattern
/-!
Routing. A scope takes the paths below its own; a resource takes the paths that its pattern
matches. Inside a scope an unmatched path or method is not found; a resource of its own refuses
other methods.
-/
namespace TagListing.Http
open TagListing.Text (Sign signs)

def below? (scope : List Char) (path : List Sign) : Option (List Sign) :=
  if (signs scope).isPrefixOf path then
    let rest := path.drop scope.length
    if rest.isEmpty || rest.head? == some (some '/') then some rest else none
  else none

def scope {σ : Type} (path : List Char) (inner : List Sign → Handler σ) : Handler σ := fun r s =>
  match below? path r.path with
  | some rest => inner rest r s
  | none => (.notFound, s)

structure Endpoint (σ : Type) where
  path : List Char
  method : String
  inner : Handler σ

def Endpoint.Takes {σ : Type} (e : Endpoint σ) (rest : List Sign) (r : Request) : Prop :=
  rest = signs e.path ∧ r.method = e.method

instance {σ : Type} (e : Endpoint σ) (rest : List Sign) (r : Request) :
    Decidable (e.Takes rest r) := by
  unfold Endpoint.Takes
  infer_instance

/- Of the endpoints that take a request the one that was registered first answers. -/
def firstAnswers {σ : Type} (registered : List (Endpoint σ)) (rest : List Sign) : Handler σ :=
  fun r s =>
    match registered.find? fun e => e.Takes rest r with
    | some e => e.inner r s
    | none => (.notFound, s)

theorem firstOf {σ : Type} {first : Endpoint σ} {rest : List Sign} {r : Request}
    (takes : first.Takes rest r) (others : List (Endpoint σ)) :
    firstAnswers (first :: others) rest r = first.inner r := by
  have found : (first :: others).find? (fun e => decide (e.Takes rest r)) = some first :=
    List.find?_cons_of_pos (decide_eq_true takes)
  funext s
  rw [firstAnswers, found]

/- A resource with one method; `wrap` is around the resource. -/
def resource {σ : Type} (path : PathPattern) (method : String) (wrap : Handler σ → Handler σ)
    (inner : Handler σ) : Handler σ := fun r s =>
  if path.isMatchedBy r.path then
    wrap (fun r s => if r.method = method then inner r s else (.empty 405, s)) r s
  else (.notFound, s)

end TagListing.Http
