import TagListing.Proofs.Tag.Wire
import TagListing.Service.App
import TagListing.Proofs.Settings.Getters
import Mathlib.Data.List.Induction

/-! What the tag endpoint answers after any run of loads and renewals of one list of services. A
load that fails keeps what it did until then; a renewal that fails changes nothing, and one that
succeeds begins a new epoch. The tags are those of the last load of the epoch that could read where
tags come from, the envelope that of the first load that brought a service. What a database answers
is not claimed. -/
namespace TagListing.Services
open Http

/- A load: the settings, and the server whose services are listed there. -/
structure Load where
  settings : Settings
  server : String

def Load.on (l : Load) (ss : Services) : Services := (load l.settings l.server ss).2

inductive Step where
  | load (l : Load)
  | renew (l : Load)

def step (ss : Services) : Step → Services
  | .load l => l.on ss
  | .renew l =>
    match configured l.settings l.server with
    | .ok renewed => renewed
    | .error _ => ss

def run (steps : List Step) : Services := steps.foldl step empty

/- The loads since the last renewal that succeeded, its own first. -/
def epochAfter (loads : List Load) : Step → List Load
  | .load l => loads ++ [l]
  | .renew l =>
    match configured l.settings l.server with
    | .ok _ => [l]
    | .error _ => loads

def epoch (steps : List Step) : List Load := steps.foldl epochAfter []

def replay (loads : List Load) : Services := loads.foldl (fun ss l => l.on ss) empty

/-! ### A run is the loads of its epoch -/

theorem configuredOn {l : Load} {renewed : Services}
    (ok : configured l.settings l.server = .ok renewed) : renewed = l.on empty := by
  unfold configured at ok
  split at ok
  · rename_i ss loaded
    cases Except.ok.inj ok
    rw [Load.on, loaded]
  · contradiction

theorem runReplay (steps : List Step) : run steps = replay (epoch steps) := by
  induction steps using List.reverseRecOn with
  | nil => rfl
  | append_singleton steps last ih =>
    have next : run (steps ++ [last]) = step (run steps) last := List.foldl_append
    have loads : epoch (steps ++ [last]) = epochAfter (epoch steps) last := List.foldl_append
    rw [next, loads, ih]
    cases last with
    | load l =>
      rw [step, epochAfter, replay, replay, List.foldl_append]
      rfl
    | renew l =>
      rw [step, epochAfter]
      split
      · rename_i renewed ok
        exact configuredOn ok
      · rfl

/-! ### What one load does -/

namespace Load

/- Where tags come from, if that can be read. -/
def store? (l : Load) : Option StoreSettings := (StoreSettings.read l.settings).toOption

/- The service that a load brings. A list of services goes on after its first name only to fail,
since there is one name to load and no name twice. -/
def service? (l : Load) : Option TagService := do
  let _ ← l.store?
  let names ← (listed l.settings l.server).toOption
  let name ← names.head?
  (readService l.settings name).toOption

end Load

theorem servedOnce (s : Settings) (names : List String) (ss : Services) :
    (loadListed s [tagServiceName] names ss).2 = ss := by
  cases names with
  | nil => rfl
  | cons name rest =>
    unfold loadListed
    split
    · rfl
    · rename_i unseen
      have other : name ≠ tagServiceName := fun same => unseen (same ▸ List.mem_singleton_self _)
      rw [readService, if_neg other]

theorem listedOutcome (s : Settings) (names : List String) (ss : Services) :
    (loadListed s [] names ss).2 = { ss with services := ss.services ++
      (names.head?.bind fun name => (readService s name).toOption).toList } := by
  cases names with
  | nil => simp [loadListed]
  | cons name rest =>
    unfold loadListed
    rw [if_neg List.not_mem_nil, List.head?_cons, Option.bind_some]
    cases service : readService s name with
    | error f => simp [Except.toOption]
    | ok service =>
      have tag : name = tagServiceName := by
        by_contra other
        rw [readService, if_neg other] at service
        contradiction
      rw [tag]
      exact servedOnce ..

theorem loadOutcome (l : Load) (ss : Services) :
    l.on ss = ⟨l.store?.getD ss.store, ss.services ++ l.service?.toList⟩ := by
  unfold Load.on load Load.service? Load.store?
  cases StoreSettings.read l.settings with
  | error f => simp [Except.toOption]
  | ok store =>
    simp only [Except.toOption, Option.getD_some]
    split
    · rename_i f unlisted
      simp [unlisted]
    · rename_i names listed
      rw [listedOutcome, listed]
      rfl

/-! ### What the loads of an epoch do -/

theorem replaySnoc (loads : List Load) (l : Load) : replay (loads ++ [l]) = l.on (replay loads) :=
  List.foldl_append

theorem replayServices (loads : List Load) :
    (replay loads).services = loads.filterMap Load.service? := by
  induction loads using List.reverseRecOn with
  | nil => rfl
  | append_singleton loads l ih =>
    rw [replaySnoc, loadOutcome, ih, List.filterMap_append]
    cases service : l.service? <;> simp [service]

/- The last of some loads that could read where tags come from. -/
def LastReading (loads : List Load) (l : Load) (store : StoreSettings) : Prop :=
  ∃ before after, loads = before ++ l :: after ∧ StoreSettings.read l.settings = .ok store ∧
    ∀ other ∈ after, ∃ f, StoreSettings.read other.settings = .error f

/- The first of some loads that brought a service, whatever it was loaded over. -/
def FirstBringing (loads : List Load) (l : Load) (service : TagService) : Prop :=
  ∃ before after, loads = before ++ l :: after ∧
    (∀ ss, (l.on ss).services = ss.services ++ [service]) ∧
    ∀ other ∈ before, ∀ ss, (other.on ss).services = ss.services

theorem lastReading {loads : List Load} {l : Load} (inside : l ∈ loads) {store : StoreSettings}
    (reads : l.store? = some store) :
    ∃ last, LastReading loads last (replay loads).store := by
  induction loads using List.reverseRecOn with
  | nil => contradiction
  | append_singleton loads last ih =>
    rw [replaySnoc, loadOutcome]
    cases read : StoreSettings.read last.settings with
    | ok store =>
      refine ⟨last, loads, [], rfl, ?_, by simp⟩
      simp [Load.store?, read, Except.toOption]
    | error f =>
      have unread : last.store? = none := by simp [Load.store?, read, Except.toOption]
      have earlier : l ∈ loads := by
        rcases List.mem_append.mp inside with old | new
        · exact old
        · rw [List.mem_singleton.mp new, unread] at reads
          contradiction
      obtain ⟨k, before, after, rfl, reads, unread'⟩ := ih earlier
      refine ⟨k, before, after ++ [last], by simp, ?_, ?_⟩
      · rw [unread]
        exact reads
      · intro other member
        rcases List.mem_append.mp member with old | new
        · exact unread' other old
        · exact ⟨f, List.mem_singleton.mp new ▸ read⟩

theorem bringsNothing {l : Load} (none : l.service? = none) (ss : Services) :
    (l.on ss).services = ss.services := by
  rw [loadOutcome, none]
  exact List.append_nil _

theorem bringsService {l : Load} {service : TagService} (some : l.service? = some service)
    (ss : Services) : (l.on ss).services = ss.services ++ [service] := by
  rw [loadOutcome, some]
  rfl

theorem firstBringing {loads : List Load} {service : TagService} {rest : List TagService}
    (services : loads.filterMap Load.service? = service :: rest) :
    ∃ first, FirstBringing loads first service ∧ first.service? = some service ∧
      first ∈ loads := by
  obtain ⟨before, first, after, rfl, nothing, brings, _⟩ :=
    List.filterMap_eq_cons_iff.mp services
  refine ⟨first, ⟨before, after, rfl, bringsService brings, ?_⟩, brings, by simp⟩
  intro other member
  exact bringsNothing (nothing other member)

/-! ### Each of them is one load -/

theorem placedOnce {before before' after after' : List Load} {k l : Load}
    (same : before ++ k :: after = before' ++ l :: after') (right : l ∈ after → k ∉ before')
    (left : k ∈ after' → l ∉ before) : k = l := by
  rcases List.append_eq_append_iff.mp same with ⟨more, rfl, rest⟩ | ⟨more, rfl, rest⟩
  · cases more with
    | nil => exact (List.cons.inj rest).1
    | cons head more =>
      obtain ⟨rfl, rfl⟩ := List.cons.inj rest
      exact absurd (by simp) (right (by simp))
  · cases more with
    | nil => exact (List.cons.inj rest).1.symm
    | cons head more =>
      obtain ⟨rfl, rfl⟩ := List.cons.inj rest
      exact absurd (by simp) (left (by simp))

theorem lastReadingOnce {loads : List Load} {k l : Load} {x y : StoreSettings}
    (here : LastReading loads k x) (there : LastReading loads l y) : k = l ∧ x = y := by
  obtain ⟨before, after, rfl, reads, unread⟩ := here
  obtain ⟨before', after', same, reads', unread'⟩ := there
  have one : k = l := by
    refine placedOnce same (fun later => ?_) fun later => ?_
    · obtain ⟨f, fault⟩ := unread l later
      rw [reads'] at fault
      contradiction
    · obtain ⟨f, fault⟩ := unread' k later
      rw [reads] at fault
      contradiction
  subst one
  exact ⟨rfl, Except.ok.inj (reads.symm.trans reads')⟩

theorem firstBringingOnce {loads : List Load} {k l : Load} {x y : TagService}
    (here : FirstBringing loads k x) (there : FirstBringing loads l y) : k = l ∧ x = y := by
  obtain ⟨before, after, rfl, brings, nothing⟩ := here
  obtain ⟨before', after', same, brings', nothing'⟩ := there
  have one : k = l := by
    refine placedOnce same (fun _ earlier => ?_) fun _ earlier => ?_
    · have none := nothing' k earlier empty
      rw [brings empty] at none
      contradiction
    · have none := nothing l earlier empty
      rw [brings' empty] at none
      contradiction
  subst one
  exact ⟨rfl, List.singleton_inj.mp ((brings empty).symm.trans (brings' empty))⟩

/-! ### What a load reads -/

/- The items of the tag list as texts; without a list there are none. -/
inductive Seeded (s : Settings) : List String → Prop where
  | absent : s.getValue seedKey = .ok none → Seeded s []
  | listed {o items texts} : s.getValue seedKey = .ok (some (.list o items)) →
      List.Forall₂ (fun item text => item.asText = .ok text) items texts → Seeded s texts

theorem seededTexts {s : Settings} {tags : Option (List String)}
    (ok : s.getTexts seedKey = .ok tags) : Seeded s (tags.getD []) := by
  unfold Settings.getTexts Settings.getList at ok
  cases value : s.getValue seedKey with
  | error f => rw [value] at ok; contradiction
  | ok found =>
    rw [value] at ok
    cases found with
    | none => cases Except.ok.inj ok; exact .absent value
    | some t =>
      cases t with
      | scalar o v => contradiction
      | table o es => contradiction
      | list o items =>
        cases texts : Settings.convertAll Settings.Tree.asText items with
        | error f =>
          simp only [bind, Except.bind, Settings.convertSome, Settings.Tree.asList, Except.map,
            texts] at ok
          contradiction
        | ok out =>
          simp only [bind, Except.bind, Settings.convertSome, Settings.Tree.asList, Except.map,
            texts] at ok
          cases Except.ok.inj ok
          exact .listed value (Settings.convertAllExact.mp texts)

theorem readSeeded {s : Settings} {store : StoreSettings} (ok : StoreSettings.read s = .ok store) :
    Seeded s store.tags := by
  unfold StoreSettings.read at ok
  cases url : s.getText urlKey with
  | error f => rw [url] at ok; contradiction
  | ok u =>
    cases tags : s.getTexts seedKey with
    | error f => rw [url, tags] at ok; contradiction
    | ok out =>
      rw [url, tags] at ok
      cases Except.ok.inj ok
      exact seededTexts tags

theorem seededOnce {s : Settings} {texts others : List String} (here : Seeded s texts)
    (there : Seeded s others) : texts = others := by
  cases here with
  | absent nowhere =>
    cases there with
    | absent => rfl
    | listed value _ => cases nowhere.symm.trans value
  | listed value all =>
    cases there with
    | absent nowhere => cases nowhere.symm.trans value
    | listed value' all' =>
      cases Option.some.inj (Except.ok.inj (value.symm.trans value'))
      have first := Settings.convertAllExact.mpr all
      exact Except.ok.inj (first.symm.trans (Settings.convertAllExact.mpr all'))

theorem broughtEnvelope {l : Load} {service : TagService} (brings : l.service? = some service) :
    ∃ envelope, l.settings.getBool envelopeKey = .ok envelope ∧
      service.envelope = envelope.getD false := by
  simp only [Load.service?, bind, Option.bind_eq_some_iff] at brings
  obtain ⟨_, _, _, _, name, _, read⟩ := brings
  unfold readService at read
  split at read
  · unfold TagService.read orFail at read
    cases envelope : l.settings.getBool envelopeKey with
    | error f => rw [envelope] at read; contradiction
    | ok e =>
      rw [envelope] at read
      cases Option.some.inj read
      exact ⟨e, rfl, rfl⟩
  · contradiction

/-! ### The answer -/

/- Texts as the wire shows them. -/
def wire (envelope : Bool) (texts : List String) : Json.Value :=
  if envelope then .object [("tags", .list (texts.map .text))] else .list (texts.map .text)

theorem assembledWire (envelope : Bool) (texts : List String) :
    (Listing.assemble envelope (texts.map Tag.mk)).toJson = wire envelope texts := by
  rw [Listing.assembledShape, List.map_map]
  cases envelope <;> rfl

def tagsTarget : List Char := "/api/tags".toList

theorem registeredBehind {σ : Type} (store : Store σ) (services : List TagService)
    (before : List (Endpoint σ)) : services.foldl (register store) before =
      before ++ services.map fun service => tagEndpoint service.envelope store := by
  induction services generalizing before with
  | nil => rw [List.foldl_nil, List.map_nil, List.append_nil]
  | cons service rest ih =>
    rw [List.foldl_cons, ih, register, List.append_assoc]
    rfl

theorem answered (ss : Services) {r : Request} (get : r.method = "GET")
    (path : r.path = Text.signs tagsTarget) (url : ss.store.url = none) :
    ss.answer r = match ss.services with
      | [] => .notFound
      | first :: _ => .json 200 (wire first.envelope ss.store.tags) := by
  have inside : below? apiPath r.path = some (Text.signs tagsPath) := by
    rw [path]
    decide
  unfold answer
  rw [url]
  simp only [appOn, scope, inside, routes, registered, registeredBehind, List.nil_append]
  cases ss.services with
  | nil => rfl
  | cons first rest =>
    have takes : (tagEndpoint first.envelope (Store.fixed ss.store.tags)).Takes
        (Text.signs tagsPath) r := ⟨rfl, get⟩
    rw [List.map_cons, firstOf takes]
    exact congrArg (Response.json 200) (assembledWire ..)

/- After any run the endpoint is absent, or it answers as two loads of the epoch say. -/
theorem epochServed (steps : List Step) {r : Request} (get : r.method = "GET")
    (path : r.path = Text.signs tagsTarget) (url : (run steps).store.url = none) :
    ((∀ l ∈ epoch steps, ∀ ss, (l.on ss).services = ss.services) ∧
      (run steps).answer r = .notFound) ∨
    ∃ last store first service texts envelope,
      LastReading (epoch steps) last store ∧ Seeded last.settings texts ∧
      FirstBringing (epoch steps) first service ∧
      first.settings.getBool envelopeKey = .ok envelope ∧
      (run steps).answer r = .json 200 (wire (envelope.getD false) texts) := by
  rw [answered _ get path url]
  have replayed := runReplay steps
  have services : (run steps).services = (epoch steps).filterMap Load.service? := by
    rw [replayed, replayServices]
  cases brought : (run steps).services with
  | nil =>
    refine .inl ⟨?_, rfl⟩
    intro l member
    rw [services] at brought
    exact bringsNothing (List.filterMap_eq_nil_iff.mp brought l member)
  | cons service rest =>
    rw [services] at brought
    obtain ⟨first, bringing, brings, inside⟩ := firstBringing brought
    obtain ⟨envelope, read, shape⟩ := broughtEnvelope brings
    obtain ⟨_, reads, _⟩ := Option.bind_eq_some_iff.mp brings
    obtain ⟨last, reading⟩ := lastReading inside reads
    rw [← replayed] at reading
    obtain ⟨before, after, loads, stored, unread⟩ := reading
    refine .inr ⟨last, _, first, service, _, envelope, ⟨before, after, loads, stored, unread⟩,
      readSeeded stored, bringing, read, ?_⟩
    rw [← shape]

/-! ### A renewal, and a load after it that only changes the tags -/

def seededSettings (tags : List String) (envelope : Bool) (others : List (String × Settings.Tree)) :
    Settings where
  root := .table none
    (("Tag", .table none [("seed", .list none (tags.map fun t => .scalar none (.text t))),
      ("envelope", .scalar none (.bool envelope))]) :: others)

def listedTag : String × Settings.Tree :=
  ("api", .table none [("services", .list none [.scalar none (.text "Tag")])])

def renewing : Load := ⟨seededSettings ["a"] true [listedTag], "api"⟩

/- Finds no services listed and fails. -/
def failing : Load := ⟨seededSettings ["b", "b"] false [], "api"⟩

def mixedSteps : List Step :=
  [.load ⟨seededSettings ["old"] false [listedTag], "api"⟩, .renew renewing, .load failing]

def tagsRequest : Request := ⟨"GET", "/api/tags", [], ""⟩

theorem servedAfterFailedLoad :
    tagsRequest.path = Text.signs tagsTarget ∧ (run mixedSteps).store.url = none ∧
      LastReading (epoch mixedSteps) failing ⟨none, ["b", "b"]⟩ ∧
      Seeded failing.settings ["b", "b"] ∧
      FirstBringing (epoch mixedSteps) renewing ⟨true⟩ ∧
      renewing.settings.getBool envelopeKey = .ok (some true) ∧
      (run mixedSteps).answer tagsRequest = .json 200 (wire true ["b", "b"]) := by
  have path : tagsRequest.path = Text.signs tagsTarget := by decide +kernel
  have url : (run mixedSteps).store.url = none := by decide +kernel
  have stored : StoreSettings.read failing.settings = .ok ⟨none, ["b", "b"]⟩ := rfl
  have reading : LastReading (epoch mixedSteps) failing ⟨none, ["b", "b"]⟩ :=
    ⟨[renewing], [], rfl, stored, nofun⟩
  have bringing : FirstBringing (epoch mixedSteps) renewing ⟨true⟩ :=
    ⟨[], [failing], rfl, bringsService rfl, nofun⟩
  have asked : renewing.settings.getBool envelopeKey = .ok (some true) := rfl
  refine ⟨path, url, reading, readSeeded stored, bringing, asked, ?_⟩
  rcases epochServed mixedSteps rfl path url with ⟨nothing, -⟩ | served
  · have inside : renewing ∈ epoch mixedSteps := List.mem_cons_self ..
    have none := nothing renewing inside empty
    rw [bringsService rfl empty] at none
    contradiction
  · obtain ⟨last, store, first, service, texts, envelope, served⟩ := served
    obtain ⟨reading', seeded, bringing', asked', answer⟩ := served
    obtain ⟨rfl, -⟩ := lastReadingOnce reading' reading
    obtain ⟨rfl, -⟩ := firstBringingOnce bringing' bringing
    cases Except.ok.inj (asked.symm.trans asked')
    rw [answer, seededOnce seeded (readSeeded stored)]
    rfl

end TagListing.Services
