import TagListing.Http.Access
import TagListing.Proofs.Json.Printed

/-! What a guard lets through. The service behind it is a parameter with a state of its own, so a
run of requests shows whether a denied one leaves a trace there. Which of several authorizations
decides is said by `Decides`: it is not the first one. How a service is mounted behind its guard is
not claimed. -/
namespace TagListing.Http
open TagListing.Text (utf8Bytes)

/-! ### The authorization that decides -/

/- In the order given; names compare without case. -/
def authorizations (headers : List (String × Bytes)) : List Bytes :=
  (headers.filter fun h => h.1.toList.map Char.toLower = "authorization".toList).map Prod.snd

inductive Decides : List Bytes → Bytes → Prop where
  | alone {v} : Decides [v] v
  | second {u v rest} : Decides (u :: v :: rest) v

theorem authorizationValues (headers : List (String × Bytes)) :
    headerValues "authorization" headers = authorizations headers := by
  have lower : "authorization".toList.map Char.toLower = "authorization".toList := by decide
  have same (h : String × Bytes) : sameName h.1 "authorization" =
      decide (h.1.toList.map Char.toLower = "authorization".toList) := by
    rw [Bool.eq_iff_iff, decide_eq_true_eq, sameName, lower, beq_iff_eq]
  simp only [headerValues, authorizations, same]

theorem frontDecides (values : List Bytes) (v : Bytes) :
    frontValue? values = some v ↔ Decides values v := by
  constructor
  · intro front
    match values, front with
    | [_], rfl => exact .alone
    | _ :: _ :: _, rfl => exact .second
  · rintro (_ | _) <;> rfl

theorem frontAbsent (values : List Bytes) : frontValue? values = none ↔ values = [] := by
  match values with
  | [] => exact ⟨fun _ => rfl, fun _ => rfl⟩
  | [_] => exact ⟨nofun, nofun⟩
  | _ :: _ :: _ => exact ⟨nofun, nofun⟩

/-! ### Judging one value -/

def Legible (v : Bytes) : Prop := ∀ b ∈ v, b = 0x09 ∨ 0x20 ≤ b ∧ b ≤ 0x7e

def Tokened (v : Bytes) : Prop := ∃ token, token ≠ [] ∧ v = utf8Bytes "Token ".toList ++ token

theorem visibleExact (b : UInt8) : isVisible b = true ↔ b = 0x09 ∨ 0x20 ≤ b ∧ b ≤ 0x7e := by
  simp only [isVisible, Bool.or_eq_true, Bool.and_eq_true, beq_iff_eq, decide_eq_true_eq,
    UInt8.lt_iff_toNat_lt, UInt8.le_iff_toNat_le, UInt8.reduceToNat]
  exact or_congr_right (and_congr_right fun _ => Nat.lt_succ_iff)

theorem legibleExact (v : Bytes) : v.all isVisible = true ↔ Legible v := by
  simp only [List.all_eq_true, visibleExact, Legible]

theorem markBytes : utf8Bytes "Token ".toList = tokenMark := by decide

theorem tokenedExact (v : Bytes) :
    (tokenMark.isPrefixOf v && v.length ≠ tokenMark.length) = true ↔ Tokened v := by
  rw [Tokened, markBytes, Bool.and_eq_true, List.isPrefixOf_iff_prefix, decide_eq_true_eq]
  constructor
  · rintro ⟨⟨token, rfl⟩, long⟩
    refine ⟨token, ?_, rfl⟩
    rintro rfl
    exact long (by rw [List.append_nil])
  · rintro ⟨token, some, rfl⟩
    refine ⟨List.prefix_append _ _, ?_⟩
    have positive := List.length_pos_iff.mpr some
    rw [List.length_append]
    omega

theorem tokenJudged (v : Bytes) :
    (Legible v ∧ Tokened v ∧ judgeToken v = .ok ()) ∨
    (¬ Legible v ∧ judgeToken v = .error .invalidBytes) ∨
    (Legible v ∧ ¬ Tokened v ∧ judgeToken v = .error .wrongMethod) := by
  by_cases legible : Legible v
  · have seen : (!v.all isVisible) ≠ true := by simp [(legibleExact v).mpr legible]
    by_cases token : Tokened v
    · refine .inl ⟨legible, token, ?_⟩
      rw [judgeToken, if_neg seen, if_pos ((tokenedExact v).mpr token)]
    · refine .inr (.inr ⟨legible, token, ?_⟩)
      rw [judgeToken, if_neg seen, if_neg fun found => token ((tokenedExact v).mp found)]
  · have unseen : (!v.all isVisible) = true := by
      rw [Bool.not_eq_true', Bool.eq_false_iff]
      exact fun all => legible ((legibleExact v).mp all)
    exact .inr (.inl ⟨legible, by rw [judgeToken, if_pos unseen]⟩)

/-! ### Judging a request -/

def Admits (p : Policy) (r : Request) : Prop :=
  match p with
  | .publicRead => True
  | .tokenRequired => ∃ v, Decides (authorizations r.headers) v ∧ Legible v ∧ Tokened v

inductive Refused (values : List Bytes) : String → Prop where
  | absent (none : values = []) : Refused values "authorization required"
  | illegible {v} (decides : Decides values v) (illegible : ¬ Legible v) :
      Refused values "Invalid authorization token"
  | otherMethod {v} (decides : Decides values v) (legible : Legible v) (other : ¬ Tokened v) :
      Refused values "Invalid authorization method"

theorem deciderUnique {values : List Bytes} {v w : Bytes} (left : Decides values v)
    (right : Decides values w) : v = w := by
  have front := (frontDecides values v).mpr left
  exact Option.some.inj (front.symm.trans ((frontDecides values w).mpr right))

theorem judged (p : Policy) (r : Request) :
    (Admits p r ∧ p.judge r.headers = .ok ()) ∨
    ∃ d : Denial, ¬ Admits p r ∧ p.judge r.headers = .error d ∧
      Refused (authorizations r.headers) d.message := by
  cases p with
  | publicRead => exact .inl ⟨trivial, rfl⟩
  | tokenRequired =>
    simp only [Policy.judge, header?, authorizationValues]
    cases front : frontValue? (authorizations r.headers) with
    | none =>
      have empty := (frontAbsent _).mp front
      refine .inr ⟨.absent, ?_, rfl, .absent empty⟩
      rintro ⟨v, decides, -⟩
      rw [empty] at decides
      cases decides
    | some v =>
      have decides := (frontDecides _ v).mp front
      rcases tokenJudged v with ⟨legible, token, ok⟩ | ⟨illegible, bad⟩ | ⟨legible, other, bad⟩
      · exact .inl ⟨⟨v, decides, legible, token⟩, ok⟩
      · refine .inr ⟨_, ?_, bad, .illegible decides illegible⟩
        rintro ⟨w, also, legible, -⟩
        exact illegible (deciderUnique also decides ▸ legible)
      · refine .inr ⟨_, ?_, bad, .otherMethod decides legible other⟩
        rintro ⟨w, also, -, token⟩
        exact other (deciderUnique also decides ▸ token)

theorem admitsExact (p : Policy) (r : Request) : p.judge r.headers = .ok () ↔ Admits p r := by
  rcases judged p r with ⟨admits, ok⟩ | ⟨d, refused, denied, -⟩
  · exact iff_of_true ok admits
  · exact iff_of_false (by rw [denied]; exact nofun) refused

/- What a reader of the headers in their order would expect. -/
def FirstAdmits (r : Request) : Prop :=
  ∃ v rest, authorizations r.headers = v :: rest ∧ Legible v ∧ Tokened v

theorem firstDecides {r : Request} (few : (authorizations r.headers).length ≤ 1) :
    Policy.tokenRequired.judge r.headers = .ok () ↔ FirstAdmits r := by
  rw [admitsExact, Admits, FirstAdmits]
  generalize authorizations r.headers = values at few
  constructor
  · rintro ⟨v, decides, good⟩
    cases decides with
    | alone => exact ⟨v, [], rfl, good⟩
    | second => exact absurd few (by simp)
  · rintro ⟨v, rest, rfl, good⟩
    cases rest with
    | nil => exact ⟨v, .alone, good⟩
    | cons w rest => exact absurd few (by simp)

instance (p : Policy) : DecidablePred (Admits p) := fun r =>
  match found : p.judge r.headers with
  | .ok () => isTrue ((admitsExact p r).mp found)
  | .error _ => isFalse fun admits => nomatch found.symm.trans ((admitsExact p r).mpr admits)

/-! ### The guard -/

/- The response that tells a reason and nothing else. -/
structure Refusal (why : String) (a : Response) : Prop where
  status : a.status = 401
  kind : a.contentType = some "application/json"
  body : a.body = (Json.Value.object [("error", .text why)]).compact
  read : Json.read a.body.toList = .ok (.object [("error", .text why)])

theorem denialRefusal (d : Denial) : Refusal d.message d.failure.response where
  status := rfl
  kind := rfl
  body := rfl
  read := by
    have whole := Json.readPrinted (Json.onlyPlain (.text _ d.message) "error")
    simp only [Denial.failure, Failure.response, Response.json, Json.Value.compact,
      String.toList_ofList]
    exact whole

variable {σ : Type}

theorem guardPasses (p : Policy) (inner : Handler σ) {r : Request} (admits : Admits p r) (s : σ) :
    guard p inner r s = inner r s := by
  simp only [guard, (admitsExact p r).mpr admits]

theorem guardRefuses (p : Policy) (inner : Handler σ) {r : Request} (refused : ¬ Admits p r)
    (s : σ) : ∃ why a, Refused (authorizations r.headers) why ∧ Refusal why a ∧
      guard p inner r s = (a, s) := by
  rcases judged p r with ⟨admits, -⟩ | ⟨d, -, denied, why⟩
  · exact absurd admits refused
  · exact ⟨_, _, why, denialRefusal d, by simp only [guard, denied]⟩

/-! ### A run of requests -/

/- Taken out of the run, the denied requests leave the run of the service alone. -/
theorem runAdmitted (p : Policy) (inner : Handler σ) (s : σ) (requests : List Request) :
    (serve (guard p inner) requests s).2 = (serve inner (requests.filter (Admits p ·)) s).2 ∧
    (serve (guard p inner) requests s).1.length = requests.length ∧
    ((requests.zip (serve (guard p inner) requests s).1).filter (Admits p ·.1)).map Prod.snd =
      (serve inner (requests.filter (Admits p ·)) s).1 := by
  induction requests generalizing s with
  | nil => exact ⟨rfl, rfl, rfl⟩
  | cons r rest ih =>
    by_cases admits : Admits p r
    · have passes := guardPasses p inner admits s
      obtain ⟨after, long, answers⟩ := ih (inner r s).2
      simp only [serve, passes, List.filter_cons, List.zip_cons_cons, admits, decide_true,
        ↓reduceIte, List.map_cons, List.length_cons, after, long, answers, and_self]
    · obtain ⟨why, a, -, -, refuses⟩ := guardRefuses p inner admits s
      obtain ⟨after, long, answers⟩ := ih s
      simp only [serve, refuses, List.filter_cons, List.zip_cons_cons, admits, decide_false,
        Bool.false_eq_true, ↓reduceIte, List.length_cons, after, long, answers, and_self]

theorem runRefused (p : Policy) (inner : Handler σ) (s : σ) (requests : List Request) :
    ∀ e ∈ requests.zip (serve (guard p inner) requests s).1, ¬ Admits p e.1 →
      ∃ why, Refused (authorizations e.1.headers) why ∧ Refusal why e.2 := by
  induction requests generalizing s with
  | nil => intro e member; contradiction
  | cons r rest ih =>
    intro e member refused
    rw [serve, List.zip_cons_cons] at member
    rcases List.mem_cons.mp member with rfl | later
    · obtain ⟨why, a, because, told, refuses⟩ := guardRefuses p inner refused s
      exact ⟨why, because, (congrArg Prod.fst refuses).symm ▸ told⟩
    · exact ih _ e later refused

theorem deciderOnly (p : Policy) {r other : Request}
    (same : ∀ v, Decides (authorizations r.headers) v ↔ Decides (authorizations other.headers) v) :
    p.judge r.headers = p.judge other.headers := by
  have front : frontValue? (authorizations r.headers) =
      frontValue? (authorizations other.headers) := by
    apply Option.ext
    intro v
    rw [frontDecides, frontDecides, same]
  cases p with
  | publicRead => rfl
  | tokenRequired => simp only [Policy.judge, header?, authorizationValues, front]

/- The service behind a guard sees the admitted requests and no others, and its responses to them
are what comes out. A denied request is told its reason in a text that is the same for everyone, and
of its headers the deciding authorization alone matters. That is the first one unless there are
more. -/
theorem deniedLeaveNoTrace (p : Policy) (inner : Handler σ) (s : σ) (requests : List Request) :
    ((serve (guard p inner) requests s).2 = (serve inner (requests.filter (Admits p ·)) s).2 ∧
      (serve (guard p inner) requests s).1.length = requests.length ∧
      ((requests.zip (serve (guard p inner) requests s).1).filter (Admits p ·.1)).map Prod.snd =
        (serve inner (requests.filter (Admits p ·)) s).1) ∧
    (∀ e ∈ requests.zip (serve (guard p inner) requests s).1, ¬ Admits p e.1 →
      ∃ why, Refused (authorizations e.1.headers) why ∧ Refusal why e.2) ∧
    (∀ r other : Request,
      (∀ v, Decides (authorizations r.headers) v ↔ Decides (authorizations other.headers) v) →
        p.judge r.headers = p.judge other.headers) ∧
    ∀ r : Request, (authorizations r.headers).length ≤ 1 →
      (Policy.tokenRequired.judge r.headers = .ok () ↔ FirstAdmits r) :=
  ⟨runAdmitted p inner s requests, runRefused p inner s requests, fun _ _ => deciderOnly p,
    fun _ => firstDecides⟩

/- Two authorizations, the first one before the second. -/
def twice (first second : String) : Request :=
  ⟨"GET", "/private", [("Authorization", utf8Bytes first.toList),
    ("authorization", utf8Bytes second.toList)], ""⟩

theorem firstTokenOverlooked :
    (FirstAdmits (twice "Token a" "Bearer b") ∧
      Policy.tokenRequired.judge (twice "Token a" "Bearer b").headers = .error .wrongMethod) ∧
    ¬ FirstAdmits (twice "Bearer b" "Token a") ∧
      Policy.tokenRequired.judge (twice "Bearer b" "Token a").headers = .ok () := by
  refine ⟨⟨⟨_, _, rfl, ?_, ?_⟩, rfl⟩, ?_, rfl⟩
  · exact (legibleExact _).mp (by decide)
  · exact (tokenedExact _).mp (by decide)
  · rintro ⟨v, rest, given, -, token⟩
    cases given
    exact absurd ((tokenedExact _).mpr token) (by decide)

end TagListing.Http
