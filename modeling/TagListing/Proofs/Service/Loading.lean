import TagListing.Service.Basic
import TagListing.Proofs.Settings.Getters

/-! One load of services over whatever was loaded before. The names of a list are gone through up to
the first that was listed before or is not known, or up to an envelope setting that does not
convert; what was done until then stays done. Where tags come from is told by what stands at the two
keys. How the list of names is read is not looked into. -/
namespace TagListing.Services
open Settings (Tree Path Reads TextOf)

/-! ### The envelope's setting -/

def envelopePath : Path := ⟨"Tag", [.field "envelope"]⟩

/- The envelope that the settings ask for. Without a value there is none. -/
inductive Envelope (s : Settings) : Bool → Prop where
  | absent (nowhere : envelopePath.find s.root = none) : Envelope s false
  | nil {t} (found : envelopePath.find s.root = some t) (empty : t.isNil = true) : Envelope s false
  | given {t b} (found : envelopePath.find s.root = some t) (value : t.isNil = false)
      (converts : t.asBool = .ok b) : Envelope s b

theorem envelopeRead (s : Settings) : s.getBool envelopeKey =
    match envelopePath.find s.root with
    | none => .ok none
    | some t => if t.isNil then .ok none else t.bare.asBool.map some := by
  have parsed : Path.parse envelopeKey = .ok envelopePath := by rfl
  simp only [Settings.getBool, Settings.getValue, Settings.get, parsed]
  cases envelopePath.find s.root with
  | none => rfl
  | some t =>
    simp only
    cases t.isNil <;> rfl

theorem envelopeExact (s : Settings) (b : Bool) :
    TagService.read s = .ok ⟨b⟩ ↔ Envelope s b := by
  rw [TagService.read, envelopeRead]
  constructor
  · intro read
    cases found : envelopePath.find s.root with
    | none =>
      rw [found] at read
      cases Except.ok.inj read
      exact .absent found
    | some t =>
      rw [found] at read
      cases empty : t.isNil with
      | true =>
        simp only [empty, if_true] at read
        cases Except.ok.inj read
        exact .nil found empty
      | false =>
        simp only [empty] at read
        cases converts : t.bare.asBool with
        | error f => rw [converts] at read; contradiction
        | ok c =>
          rw [converts] at read
          cases Except.ok.inj read
          exact .given found empty ((Settings.convertsBare Settings.boolConverts).mp converts)
  · rintro (nowhere | ⟨found, empty⟩ | ⟨found, value, converts⟩)
    · rw [nowhere]
      rfl
    · rw [found]
      simp only [empty]
      rfl
    · rw [found]
      simp only [value, (Settings.convertsBare Settings.boolConverts).mpr converts]
      rfl

/-! ### Where tags come from -/

/- Without a list of tags there are none. -/
inductive Sourced (s : Settings) : Except Settings.Fault StoreSettings → Prop where
  | noUrl {f} (url : Reads (Tree.Scalarly TextOf) s urlKey (.error f)) : Sourced s (.error f)
  | noTags {found f} (url : Reads (Tree.Scalarly TextOf) s urlKey (.ok found))
      (tags : Reads (Tree.Itemwise (Tree.Scalarly TextOf)) s seedKey (.error f)) :
      Sourced s (.error f)
  | both {found listed} (url : Reads (Tree.Scalarly TextOf) s urlKey (.ok found))
      (tags : Reads (Tree.Itemwise (Tree.Scalarly TextOf)) s seedKey (.ok listed)) :
      Sourced s (.ok ⟨found, listed.getD []⟩)

theorem sourcedRead (s : Settings) : Sourced s (StoreSettings.read s) := by
  have url : Reads (Tree.Scalarly TextOf) s urlKey (s.getText urlKey) :=
    Settings.plainReads Settings.textConverts s urlKey
  have tags : Reads (Tree.Itemwise (Tree.Scalarly TextOf)) s seedKey (s.getTexts seedKey) := by
    rw [Settings.textsReading]
    exact Settings.plainReads Settings.textsConvert s seedKey
  unfold StoreSettings.read
  generalize s.getText urlKey = found at url
  generalize s.getTexts seedKey = listed at tags
  cases found with
  | error f => exact .noUrl url
  | ok found =>
    cases listed with
    | error f => exact .noTags url tags
    | ok listed => exact .both url tags

/-! ### Going through the names -/

/- The course of a list of names after those that were met before: how it ends, and what it has
loaded by then. -/
inductive Course (s : Settings) :
    List String → List String → Except Failure Unit → List TagService → Prop where
  | finished (met) : Course s met [] (.ok ()) []
  | repeated {met name rest} (known : name ∈ met) :
      Course s met (name :: rest) (.error (.other (.repeatedService name))) []
  | unknown {met name rest} (fresh : name ∉ met) (other : name ≠ tagServiceName) :
      Course s met (name :: rest) (.error (.other (.unknownService name))) []
  | unreadable {met rest f} (fresh : tagServiceName ∉ met) (fault : TagService.read s = .error f) :
      Course s met (tagServiceName :: rest) (.error (.settings f)) []
  | loaded {met rest service result brought} (fresh : tagServiceName ∉ met)
      (reads : TagService.read s = .ok service)
      (next : Course s (met ++ [tagServiceName]) rest result brought) :
      Course s met (tagServiceName :: rest) result (service :: brought)

theorem loadCourse (s : Settings) (names : List String) (ss : Services) (seen met : List String)
    (same : ∀ name, name ∈ seen ↔ name ∈ met) :
    ∃ result brought, Course s met names result brought ∧
      loadListed s seen names ss = (result, ⟨ss.store, ss.services ++ brought⟩) := by
  induction names generalizing ss seen met with
  | nil => exact ⟨_, [], .finished met, by simp [loadListed]⟩
  | cons name rest ih =>
    unfold loadListed
    by_cases known : name ∈ seen
    · exact ⟨_, [], .repeated ((same name).mp known), by simp [known]⟩
    have fresh : name ∉ met := fun member => known ((same name).mpr member)
    by_cases tag : name = tagServiceName
    · subst tag
      cases reads : TagService.read s with
      | error f =>
        exact ⟨_, [], .unreadable fresh reads, by simp [known, readService, reads, orFail]⟩
      | ok service =>
        have grown : ∀ other, other ∈ tagServiceName :: seen ↔ other ∈ met ++ [tagServiceName] := by
          intro other
          rw [List.mem_cons, List.mem_append, List.mem_singleton, same, or_comm]
        obtain ⟨result, brought, course, loads⟩ :=
          ih { ss with services := ss.services ++ [service] } _ _ grown
        refine ⟨result, service :: brought, .loaded fresh reads course, ?_⟩
        simp only [if_neg known, readService, if_pos, reads, orFail, loads, List.append_assoc,
          List.singleton_append]
    · exact ⟨_, [], .unknown fresh tag, by simp [known, readService, tag]⟩

/-! ### The first name at fault -/

/- A name that was listed before or is not known, behind names of which none is. -/
structure FirstOffence (names before : List String) (name : String) : Prop where
  place : ∃ after, names = before ++ name :: after
  once : before.Nodup
  known : ∀ other ∈ before, other = tagServiceName
  offends : name ∈ before ∨ name ≠ tagServiceName

theorem notInside {names before sound : List String} {name : String}
    (offence : FirstOffence names before name) (once : (before ++ name :: sound).Nodup)
    (known : ∀ other ∈ before ++ name :: sound, other = tagServiceName) : False := by
  rcases offence.offends with listed | other
  · exact (List.nodup_append.mp once).2.2 name listed name List.mem_cons_self rfl
  · exact other (known name (by simp))

theorem firstUnique {names before before' : List String} {name name' : String}
    (left : FirstOffence names before name) (right : FirstOffence names before' name') :
    before = before' ∧ name = name' := by
  obtain ⟨after, rfl⟩ := left.place
  obtain ⟨after', same⟩ := right.place
  rcases List.append_eq_append_iff.mp same with ⟨more, rfl, rest⟩ | ⟨more, rfl, rest⟩
  · cases more with
    | nil => exact ⟨(List.append_nil _).symm, (List.cons.inj rest).1⟩
    | cons head more =>
      obtain ⟨rfl, -⟩ := List.cons.inj rest
      exact (notInside left right.once right.known).elim
  · cases more with
    | nil => exact ⟨List.append_nil _, (List.cons.inj rest).1.symm⟩
    | cons head more =>
      obtain ⟨rfl, -⟩ := List.cons.inj rest
      exact (notInside right left.once left.known).elim

def complaint (before : List String) (name : String) : Complaint :=
  if name ∈ before then .repeatedService name else .unknownService name

variable {s : Settings} {met names : List String} {result : Except Failure Unit}
  {brought : List TagService}

theorem metGrown (once : met.Nodup) (known : ∀ other ∈ met, other = tagServiceName)
    (fresh : tagServiceName ∉ met) : (met ++ [tagServiceName]).Nodup ∧
      ∀ other ∈ met ++ [tagServiceName], other = tagServiceName := by
  constructor
  · refine List.nodup_append.mpr ⟨once, List.nodup_cons.mpr ⟨List.not_mem_nil, .nil⟩, ?_⟩
    intro other member same new equal
    exact fresh (List.mem_singleton.mp new ▸ equal ▸ member)
  · intro other member
    rcases List.mem_append.mp member with old | new
    · exact known other old
    · exact List.mem_singleton.mp new

theorem complaintRepeated {before : List String} {name other : String} :
    .repeatedService name = complaint before other ↔ name = other ∧ other ∈ before := by
  unfold complaint
  split <;> simp [*]

theorem complaintUnknown {before : List String} {name other : String} :
    .unknownService name = complaint before other ↔ name = other ∧ other ∉ before := by
  unfold complaint
  split <;> simp [*]

theorem complaintListed {before : List String} {server other : String} :
    .missingServices server ≠ complaint before other := by
  unfold complaint
  split <;> simp

/- How a course ends, by what is at fault. -/
inductive Ending (s : Settings) (met names : List String) : Except Failure Unit → Prop where
  | well (once : (met ++ names).Nodup) (known : ∀ other ∈ names, other = tagServiceName)
      (reads : names = [] ∨ ∃ service, TagService.read s = .ok service) : Ending s met names (.ok ())
  | setting {f} (first : names.head? = some tagServiceName) (fault : TagService.read s = .error f) :
      Ending s met names (.error (.settings f))
  | name {before name} (offence : FirstOffence (met ++ names) before name)
      (reads : before = met ∨ ∃ service, TagService.read s = .ok service) :
      Ending s met names (.error (.other (complaint before name)))

theorem courseEnding (course : Course s met names result brought) (once : met.Nodup)
    (known : ∀ other ∈ met, other = tagServiceName) : Ending s met names result := by
  induction course with
  | finished met => exact .well (by simpa using once) nofun (.inl rfl)
  | @repeated met name rest listed =>
    have named : complaint met name = .repeatedService name := if_pos listed
    rw [← named]
    exact .name ⟨⟨rest, rfl⟩, once, known, .inl listed⟩ (.inl rfl)
  | @unknown met name rest fresh other =>
    have named : complaint met name = .unknownService name := if_neg fresh
    rw [← named]
    exact .name ⟨⟨rest, rfl⟩, once, known, .inr other⟩ (.inl rfl)
  | unreadable fresh fault => exact .setting rfl fault
  | @loaded met rest service result brought fresh reads next ih =>
    obtain ⟨once', known'⟩ := metGrown once known fresh
    have joined : met ++ tagServiceName :: rest = (met ++ [tagServiceName]) ++ rest := by simp
    cases ih once' known' with
    | well once known reads' =>
      refine .well (joined ▸ once) (fun other member => ?_) (.inr ⟨service, reads⟩)
      rcases List.mem_cons.mp member with rfl | later
      · rfl
      · exact known other later
    | setting first fault =>
      rw [reads] at fault
      contradiction
    | name offence _ => exact .name (joined ▸ offence) (.inr ⟨service, reads⟩)

/- One service goes by a name, and its name is met once. -/
theorem courseServed (course : Course s met names result brought) (served : tagServiceName ∈ met) :
    brought = [] := by
  cases course with
  | loaded fresh => exact absurd served fresh
  | _ => rfl

theorem courseBrings (course : Course s [] names result brought) :
    brought.length ≤ 1 ∧ ∀ service, brought = [service] ↔
      names.head? = some tagServiceName ∧ TagService.read s = .ok service := by
  cases course with
  | finished => simp
  | repeated known => contradiction
  | unknown fresh other => simp [other]
  | unreadable fresh fault => simp [fault]
  | @loaded _ rest service _ more fresh reads next =>
    obtain rfl : more = [] := courseServed next (by simp)
    simp [reads]

theorem offenceEnding {names before : List String} {name : String} (ending : Ending s [] names result)
    (offence : FirstOffence names before name)
    (reads : before = [] ∨ ∃ service, TagService.read s = .ok service) :
    result = .error (.other (complaint before name)) := by
  obtain ⟨after, rfl⟩ := offence.place
  cases ending with
  | well once known _ => exact (notInside offence once known).elim
  | setting first fault =>
    rcases reads with rfl | ⟨service, reads⟩
    · rcases offence.offends with listed | other
      · contradiction
      · exact absurd (Option.some.inj first) other
    · rw [reads] at fault
      contradiction
  | name other _ =>
    obtain ⟨rfl, rfl⟩ := firstUnique offence other
    rfl

/-! ### One load -/

def Lists (s : Settings) (server : String) (names : List String) : Prop :=
  s.getTexts (servicesKey server) = .ok (some names)

/- What a load comes to once it has read where tags come from. -/
structure Loaded (s : Settings) (server : String) (result : Except Failure Unit)
    (brought : List TagService) : Prop where
  succeeds : result = .ok () ↔ ∃ names, Lists s server names ∧
    (names = [] ∨ names = [tagServiceName] ∧ ∃ envelope, Envelope s envelope)
  few : brought.length ≤ 1
  brings : ∀ envelope, brought = [⟨envelope⟩] ↔ ∃ names, Lists s server names ∧
    names.head? = some tagServiceName ∧ Envelope s envelope
  repeated : ∀ name, result = .error (.other (.repeatedService name)) ↔
    ∃ names, Lists s server names ∧ ∃ before, FirstOffence names before name ∧ name ∈ before ∧
      ∃ envelope, Envelope s envelope
  unknown : ∀ name, result = .error (.other (.unknownService name)) ↔
    ∃ names, Lists s server names ∧ ∃ before, FirstOffence names before name ∧ name ∉ before ∧
      (before = [] ∨ ∃ envelope, Envelope s envelope)
  setting : ∀ f, result = .error (.settings f) ↔ s.getTexts (servicesKey server) = .error f ∨
    ∃ names, Lists s server names ∧ names.head? = some tagServiceName ∧
      s.getBool envelopeKey = .error f
  missing : result = .error (.other (.missingServices server)) ↔
    s.getTexts (servicesKey server) = .ok none

theorem soundEnding (ending : Ending s [] names result) (once : names.Nodup)
    (known : ∀ other ∈ names, other = tagServiceName)
    (reads : names = [] ∨ ∃ service, TagService.read s = .ok service) : result = .ok () := by
  cases ending with
  | well => rfl
  | setting first fault =>
    rcases reads with rfl | ⟨service, reads⟩
    · contradiction
    · rw [reads] at fault
      contradiction
  | name offence _ =>
    obtain ⟨after, rfl⟩ := offence.place
    exact (notInside offence once known).elim

theorem soundNames (once : names.Nodup) (known : ∀ other ∈ names, other = tagServiceName) :
    names = [] ∨ names = [tagServiceName] := by
  rcases names with _ | ⟨first, _ | ⟨second, rest⟩⟩
  · exact .inl rfl
  · exact .inr (congrArg ([·]) (known first (by simp)))
  · have same : first = second := (known first (by simp)).trans (known second (by simp)).symm
    exact absurd (by simp [same]) (List.nodup_cons.mp once).1

theorem settingEnding {f : Settings.Fault} (ending : Ending s [] names result) :
    result = .error (.settings f) ↔
      names.head? = some tagServiceName ∧ TagService.read s = .error f := by
  constructor
  · rintro rfl
    cases ending with
    | setting first fault => exact ⟨first, fault⟩
  · rintro ⟨first, fault⟩
    cases ending with
    | setting _ fault' =>
      rw [fault] at fault'
      cases Except.error.inj fault'
      rfl
    | well _ _ reads =>
      rcases reads with rfl | ⟨service, reads⟩
      · contradiction
      · rw [fault] at reads
        contradiction
    | name offence reads =>
      rcases reads with rfl | ⟨service, reads⟩
      · obtain ⟨after, rfl⟩ := offence.place
        rcases offence.offends with listed | other
        · contradiction
        · exact absurd (Option.some.inj first) other
      · rw [fault] at reads
        contradiction

theorem nameEnding (ending : Ending s [] names result) (c : Complaint) :
    result = .error (.other c) ↔ ∃ before name, FirstOffence names before name ∧
      c = complaint before name ∧ (before = [] ∨ ∃ service, TagService.read s = .ok service) := by
  constructor
  · rintro rfl
    cases ending with
    | name offence reads => exact ⟨_, _, offence, rfl, reads⟩
  · rintro ⟨before, name, offence, rfl, reads⟩
    exact offenceEnding ending offence reads

theorem listedNames {server : String} (ok : listed s server = .ok names) :
    Lists s server names := by
  unfold listed at ok
  split at ok
  · contradiction
  · contradiction
  · rename_i found lists
    cases Except.ok.inj ok
    exact lists

theorem listsOnly {server : String} (lists : Lists s server names) (P : List String → Prop) :
    (∃ names, Lists s server names ∧ P names) ↔ P names := by
  constructor
  · rintro ⟨other, same, holds⟩
    rw [Lists, lists] at same
    cases Except.ok.inj same
    exact holds
  · exact fun holds => ⟨names, lists, holds⟩

theorem envelopeSome (s : Settings) :
    (∃ envelope, Envelope s envelope) ↔ ∃ service, TagService.read s = .ok service := by
  constructor
  · rintro ⟨envelope, asked⟩
    exact ⟨_, (envelopeExact s envelope).mpr asked⟩
  · rintro ⟨service, reads⟩
    exact ⟨service.envelope, (envelopeExact s _).mp reads⟩

theorem envelopeFault (s : Settings) (f : Settings.Fault) :
    TagService.read s = .error f ↔ s.getBool envelopeKey = .error f := by
  rw [TagService.read]
  cases s.getBool envelopeKey <;> simp [bind, Except.bind]

theorem endingLoaded {server : String} (lists : Lists s server names)
    (ending : Ending s [] names result) (few : brought.length ≤ 1)
    (brings : ∀ service, brought = [service] ↔
      names.head? = some tagServiceName ∧ TagService.read s = .ok service) :
    Loaded s server result brought := by
  refine ⟨?_, few, fun envelope => ?_, fun name => ?_, fun name => ?_, fun f => ?_, ?_⟩
  · rw [listsOnly lists, envelopeSome]
    constructor
    · rintro rfl
      cases ending with
      | well once known reads =>
        have once : names.Nodup := once
        rcases soundNames once known with empty | single
        · exact .inl empty
        · exact .inr ⟨single, reads.resolve_left (by simp [single])⟩
    · rintro (rfl | ⟨rfl, reads⟩)
      · exact soundEnding ending .nil nofun (.inl rfl)
      · exact soundEnding ending (by simp) (by simp) (.inr reads)
  · rw [listsOnly lists, brings, envelopeExact]
  · rw [listsOnly lists, nameEnding ending, envelopeSome]
    constructor
    · rintro ⟨before, other, offence, same, reads⟩
      obtain ⟨rfl, listed⟩ := complaintRepeated.mp same
      exact ⟨before, offence, listed, reads.resolve_left (List.ne_nil_of_mem listed)⟩
    · rintro ⟨before, offence, listed, reads⟩
      exact ⟨before, name, offence, complaintRepeated.mpr ⟨rfl, listed⟩, .inr reads⟩
  · rw [listsOnly lists, nameEnding ending, envelopeSome]
    constructor
    · rintro ⟨before, other, offence, same, reads⟩
      obtain ⟨rfl, fresh⟩ := complaintUnknown.mp same
      exact ⟨before, offence, fresh, reads⟩
    · rintro ⟨before, offence, fresh, reads⟩
      exact ⟨before, name, offence, complaintUnknown.mpr ⟨rfl, fresh⟩, reads⟩
  · rw [settingEnding ending, envelopeFault, listsOnly lists, lists]
    simp
  · rw [nameEnding ending, lists]
    simp [complaintListed]

/- Without a list of names nothing is loaded. -/
theorem unlistedLoaded {server : String} {f : Failure} (fault : listed s server = .error f) :
    Loaded s server (.error f) [] := by
  unfold listed at fault
  have never (P : List String → Prop) : ¬ ∃ names, Lists s server names ∧ P names := by
    rintro ⟨names, lists, -⟩
    rw [lists] at fault
    contradiction
  refine ⟨?_, Nat.zero_le 1, fun envelope => ?_, fun name => ?_, fun name => ?_, fun g => ?_, ?_⟩
  · simp [never]
  · simp [never]
  all_goals
    split at fault
    · rename_i unread
      cases fault
      simp [never, unread]
    · rename_i missing
      cases fault
      simp [never, missing]
    · contradiction

/- Where tags come from is replaced as soon as it can be read, whatever becomes of the names. -/
theorem loadedUpToOffence (s : Settings) (server : String) (ss : Services) :
    Sourced s (StoreSettings.read s) ∧
    match StoreSettings.read s with
    | .error f => load s server ss = (.error (.settings f), ss)
    | .ok store => ∃ result brought, load s server ss = (result, ⟨store, ss.services ++ brought⟩) ∧
      Loaded s server result brought := by
  refine ⟨sourcedRead s, ?_⟩
  unfold load
  cases StoreSettings.read s with
  | error f => rfl
  | ok store =>
    simp only
    cases lists : listed s server with
    | error f => exact ⟨.error f, [], by simp, unlistedLoaded lists⟩
    | ok names =>
      obtain ⟨result, brought, course, loads⟩ :=
        loadCourse s names ⟨store, ss.services⟩ [] [] fun _ => Iff.rfl
      obtain ⟨few, brings⟩ := courseBrings course
      have ending := courseEnding course .nil nofun
      exact ⟨result, brought, loads, endingLoaded (listedNames lists) ending few brings⟩

def doubledSettings : Settings where
  root := .table none
    [("Tag", .table none [("seed", .list none [.scalar none (.text "b")]),
      ("envelope", .scalar none (.text "on"))]),
    ("api", .table none [("services", .list none
      [.scalar none (.text "Tag"), .scalar none (.text "Tag"), .scalar none (.text "User")])])]

def earlier : Services := ⟨⟨some "postgres://localhost", ["a"]⟩, [⟨false⟩]⟩

theorem stoppedAtDouble : load doubledSettings "api" earlier =
    (.error (.other (.repeatedService "Tag")), ⟨⟨none, ["b"]⟩, [⟨false⟩, ⟨true⟩]⟩) := by
  have lists : Lists doubledSettings "api" ["Tag", "Tag", "User"] := by rfl
  have asked : Envelope doubledSettings true :=
    .given (t := .scalar none (.text "on")) rfl rfl (by rfl)
  have offence : FirstOffence ["Tag", "Tag", "User"] ["Tag"] "Tag" :=
    ⟨⟨["User"], rfl⟩, by simp, by simp [tagServiceName], .inl (by simp)⟩
  have store : StoreSettings.read doubledSettings = .ok ⟨none, ["b"]⟩ := by rfl
  obtain ⟨_, told⟩ := loadedUpToOffence doubledSettings "api" earlier
  rw [store] at told
  obtain ⟨result, brought, loads, loaded⟩ := told
  rw [loads, (loaded.repeated "Tag").mpr ⟨_, lists, _, offence, by simp, _, asked⟩,
    (loaded.brings true).mpr ⟨_, lists, rfl, asked⟩]
  rfl

end TagListing.Services
