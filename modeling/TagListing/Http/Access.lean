import TagListing.Http.Message
/-!
Access policies and the guard. A guard passes on what its policy allows and answers the rest
itself, before anything behind it sees the request.
-/
namespace TagListing.Http

inductive Policy where
  | publicRead
  | tokenRequired
  deriving DecidableEq, Repr

inductive Denial where
  | absent
  /- Bytes that are neither a tab nor printable. -/
  | invalidBytes
  /- No token method, or no token after it. -/
  | wrongMethod
  deriving DecidableEq, Repr

def Denial.message : Denial → String
  | .absent => "authorization required"
  | .invalidBytes => "Invalid authorization token"
  | .wrongMethod => "Invalid authorization method"

def Denial.failure (d : Denial) : Failure :=
  .unauthorized (.object [("error", .text d.message)])

def isVisible (b : UInt8) : Bool := b == 9 || (32 ≤ b && b < 127)

def tokenMark : Bytes := [84, 111, 107, 101, 110, 32]

def judgeToken (value : Bytes) : Except Denial Unit :=
  if !value.all isVisible then .error .invalidBytes
  else if tokenMark.isPrefixOf value && value.length ≠ tokenMark.length then .ok ()
  else .error .wrongMethod

def Policy.judge (p : Policy) (headers : List (String × Bytes)) : Except Denial Unit :=
  match p with
  | .publicRead => .ok ()
  | .tokenRequired =>
    match header? "authorization" headers with
    | none => .error .absent
    | some value => judgeToken value

abbrev Handler (σ : Type) := Request → σ → Response × σ

def guard {σ : Type} (p : Policy) (inner : Handler σ) : Handler σ := fun r s =>
  match p.judge r.headers with
  | .ok () => inner r s
  | .error d => (d.failure.response, s)

/- A handler behind several policies, the last one outermost. -/
def guards {σ : Type} (ps : List Policy) (inner : Handler σ) : Handler σ :=
  ps.foldl (fun h p => guard p h) inner

def serve {σ : Type} (h : Handler σ) : List Request → σ → List Response × σ
  | [], s => ([], s)
  | r :: rest, s =>
    let (a, s) := h r s
    let (more, s) := serve h rest s
    (a :: more, s)

end TagListing.Http
