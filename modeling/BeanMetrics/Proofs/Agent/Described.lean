import BeanMetrics.Proofs.Agent.Conversation
import BeanMetrics.Proofs.Config.Valid
import BeanMetrics.Proofs.Registry.Join

/-!
Whether a snapshot can describe an object that was found and listed. A listing names its objects by
their key properties only, and the reader puts the pattern's domain in front. A plain domain is the
object's own, and the object is described; a domain with wildcards is none at all, so that nothing
listed is read and no object is described.
-/

namespace BeanMetrics
namespace ObjectName

def IsListedAs (name : ObjectName) (key : String) : Prop :=
  ∃ properties, properties.Perm name.properties ∧
    (ObjectName.mk name.domain properties).keyPropertyList = key

theorem ofText?_behind_iff {domain key : String} (hc : ':' ∉ domain.toList) {name : ObjectName} :
    ofText? (domain ++ ":" ++ key) = some name ↔
      PlainDomain domain ∧ Writable name.properties ∧ name.properties ≠ [] ∧
        name.domain = domain ∧ name.keyPropertyList = key := by
  rw [ofText?_eq_some_iff]
  constructor
  · rintro ⟨hd, hw, hne, ht⟩
    have hcut : Text.splitFirst ':' name.text.toList = some (domain.toList, key.toList) :=
      Text.splitFirst_eq_some_iff.mpr ⟨by simp [← ht], hc⟩
    have hown : Text.splitFirst ':' name.text.toList =
        some (name.domain.toList, name.keyPropertyList.toList) :=
      Text.splitFirst_eq_some_iff.mpr ⟨by simp [text], hd.noColon⟩
    have heq := Option.some.inj (hown.symm.trans hcut)
    have hdomain : name.domain = domain := String.toList_inj.mp (congrArg Prod.fst heq)
    have hkey : name.keyPropertyList = key := String.toList_inj.mp (congrArg Prod.snd heq)
    exact ⟨hdomain ▸ hd, hw, hne, hdomain, hkey⟩
  · rintro ⟨hd, hw, hne, rfl, rfl⟩
    exact ⟨hd, hw, hne, rfl⟩

end ObjectName

namespace Pattern

variable {text : String} {p : Pattern}

theorem noColon_of_ofText? (h : ofText? text = some p) : ':' ∉ p.domain.source.toList := by
  obtain ⟨list, hs, -⟩ := domain_of_ofText? h
  exact (Text.splitFirst_eq_some_iff.mp hs).2

/-- The domain of a pattern is one of objects if it has no wildcards. -/
theorem plainDomain_iff (h : ofText? text = some p) :
    ObjectName.PlainDomain p.domain.source ↔ p.domain.isWildcard = false := by
  obtain ⟨list, -, hne⟩ := domain_of_ofText? h
  exact ⟨fun hd => hd.noWildcard, fun hw => ⟨hne, noColon_of_ofText? h, hw⟩⟩

end Pattern

namespace ReplyValue

variable {domain : String} {entries : List (String × Json)} {listed : List Listed}

theorem mem_listed_iff (h : ReplyValue.listed domain (.object entries) = .ok listed)
    {object : Listed} :
    object ∈ listed ↔ ∃ entry ∈ entries, ObjectName.ofText? (domain ++ ":" ++ entry.1) = some object.1 ∧
      descriptorsOf entry.2 = object.2 := by
  obtain rfl := Except.ok.inj h
  rw [List.mem_filterMap]
  refine exists_congr fun entry => and_congr_right fun _ => ?_
  simp [Option.map_eq_some_iff, Prod.ext_iff]

/-- Behind a domain that is none, nothing is a name. -/
theorem listed_eq_nil (hc : ':' ∉ domain.toList) (hd : ¬ ObjectName.PlainDomain domain)
    (h : ReplyValue.listed domain (.object entries) = .ok listed) : listed = [] := by
  refine List.eq_nil_iff_forall_not_mem.mpr fun object hm => hd ?_
  obtain ⟨entry, -, hn, -⟩ := (mem_listed_iff h).mp hm
  exact ((ObjectName.ofText?_behind_iff hc).mp hn).1

theorem firstOf?_listed (hd : ObjectName.PlainDomain domain)
    (h : ReplyValue.listed domain (.object entries) = .ok listed) (ho : (Json.object entries).Ordered)
    {name : ObjectName} (hname : name.domain = domain) (hw : ObjectName.Writable name.properties)
    (hne : name.properties ≠ []) {entry : String × Json} (hm : entry ∈ entries)
    (hk : name.IsListedAs entry.1)
    (honly : ∀ other ∈ entries, name.IsListedAs other.1 → other.1 = entry.1) :
    Snapshot.firstOf? listed name = some (descriptorsOf entry.2) := by
  have hkeys : (entries.map (·.1)).Nodup := by
    cases ho with
    | object hascending _ => exact hascending.nodup_keys
  obtain ⟨properties, hp, hlist⟩ := hk
  let read : ObjectName := ⟨name.domain, properties⟩
  have hread : ObjectName.ofText? (domain ++ ":" ++ entry.1) = some read := by
    have hsome : properties ≠ [] := fun hnil => hne (hnil ▸ hp).nil_eq.symm
    exact (ObjectName.ofText?_behind_iff hd.noColon).mpr ⟨hd, hw.perm hp.symm, hsome, hname, hlist⟩
  have hsame : read.Same name := ObjectName.same_of_perm hw.distinct rfl hp
  have hmem : (read, descriptorsOf entry.2) ∈ listed := (mem_listed_iff h).mpr ⟨entry, hm, hread, rfl⟩
  refine Snapshot.firstOf?_eq_some hmem hsame fun object hobject hs => ?_
  obtain ⟨other, hother, hn, hdescriptors⟩ := (mem_listed_iff h).mp hobject
  obtain ⟨-, hwother, -, -, hkey⟩ := (ObjectName.ofText?_behind_iff hd.noColon).mp hn
  have hperm := ObjectName.perm_of_same hwother.distinct hw.distinct hs
  have hlisted : name.IsListedAs other.1 := ⟨object.1.properties, hperm, hs.1 ▸ hkey⟩
  have hentry : other = entry :=
    List.inj_on_of_nodup_map hkeys hother hm (honly other hother hlisted)
  rw [← hdescriptors, hentry]

end ReplyValue

/-! ### What the agent says of an object -/

/-- The names of the attributes in the entry of an object. -/
def ReplyValue.attributeNames? (entry : Json) : Option (List String) :=
  ((entry.get? "attr").bind Json.object?).map (·.map (·.1))

theorem ReplyValue.map_name_of_attributeNames? {entry : Json} {names : List String}
    (h : attributeNames? entry = some names) : (descriptorsOf entry).map (·.name) = names := by
  obtain ⟨attributes, ha, rfl⟩ := Option.map_eq_some_iff.mp h
  rw [map_name_descriptorsOf, ha, Option.getD_some]

namespace Answer

def elements? (answer : Answer) : Option (List Json) :=
  answer.value?.bind fun
    | .array elements => some elements
    | _ => none

def members? (answer : Answer) : Option (List (String × Json)) := answer.value?.bind Json.object?

/-- The answer to a search in which an object is found. -/
def Finds (answer : Answer) (name : ObjectName) : Prop :=
  ∃ elements ∈ answer.elements?, ∃ element ∈ elements, element.string? = some name.text

/-- The answer to a listing that has one entry for the object, with attributes of these names. -/
def Lists (answer : Answer) (name : ObjectName) (names : List String) : Prop :=
  ∃ entries ∈ answer.members?, ∃ entry ∈ entries, name.IsListedAs entry.1 ∧
    (∀ other ∈ entries, name.IsListedAs other.1 → other.1 = entry.1) ∧
    ReplyValue.attributeNames? entry.2 = some names

theorem elements?_eq_some_iff {answer : Answer} {elements : List Json} :
    answer.elements? = some elements ↔ answer.value? = some (.array elements) := by
  rw [elements?, Option.bind_eq_some_iff]
  constructor
  · rintro ⟨value, hv, he⟩
    cases value with
    | array found => rw [hv, Option.some.inj he]
    | _ => cases he
  · exact fun h => ⟨_, h, rfl⟩

theorem members?_eq_some_iff {answer : Answer} {members : List (String × Json)} :
    answer.members? = some members ↔ answer.value? = some (.object members) := by
  rw [members?, Option.bind_eq_some_iff]
  constructor
  · rintro ⟨value, hv, hm⟩
    cases value with
    | object found => rw [hv, Option.some.inj hm]
    | _ => cases hm
  · exact fun h => ⟨_, h, rfl⟩

theorem ordered_of_value? {answer : Answer} {value : Json} (h : answer.value? = some value) :
    value.Ordered := by
  unfold value? at h
  split at h
  · split at h
    · split at h
      · rename_i reply hr
        obtain rfl := Option.some.inj (Option.ite_none_right_eq_some.mp h).2
        exact Reply.ordered_value hr
      · cases h
    · cases h
  · cases h

end Answer

namespace Client

variable {c : Client} {agent : Agent} {url : Url} {p : Pattern}

theorem snapshot_of_upcoming (h : Url.ofText c.baseUrl = .ok url) {found listing values : Answer}
    (ha : agent.upcoming 3 = [found, listing, values]) {names : List ObjectName} (hne : names ≠ [])
    {listed : List ReplyValue.Listed} {read : List ReplyValue.Readings}
    (hs : ((replyOf c.timeoutMillis found).bind fun reply => ReplyValue.searched reply.value) =
      .ok names)
    (hl : ((replyOf c.timeoutMillis listing).bind fun reply =>
      ReplyValue.listed p.domain.source reply.value) = .ok listed)
    (hr : ((replyOf c.timeoutMillis values).bind fun reply =>
      ReplyValue.read p p.text reply.value) = .ok read) :
    (c.snapshot agent p).2 = .ok (.assemble names listed read) := by
  let first := agent.exchange (c.requestOf url (.search p.text))
  let second := first.1.exchange (c.requestOf url (.list p.domain.source))
  let third := second.1.exchange (c.requestOf url (.read p.text))
  have hupcoming : agent.upcoming 3 = [first.2, second.2, third.2] := agent.upcoming_three _ _ _
  obtain ⟨rfl, rfl, rfl⟩ : first.2 = found ∧ second.2 = listing ∧ third.2 = values := by
    simpa using hupcoming.symm.trans ha
  have hsearch : c.search agent p = (first.1, .ok names) := by rw [search, ask_of_url h, ← hs]
  have hlist : c.list first.1 p.domain.source = (second.1, .ok listed) := by
    rw [list, ask_of_url h, ← hl]
  have hread : c.read second.1 p = (third.1, .ok read) := by
    rw [Client.read, ask_of_url h, ← hr]
  rw [snapshot_of_list hne hsearch hlist, hread]
  rfl

/-- An object that was found and listed, with all three requests answered, is described if the domain
of the pattern has no wildcards: by one readable descriptor for each attribute that its entry has. If
it has some, the object is not described. -/
theorem describe_listed {text nameText : String} {name : ObjectName}
    (hp : Pattern.ofText? text = some p) (hn : ObjectName.ofText? nameText = some name)
    (hm : p.accepts name = true) (hu : Url.ofText c.baseUrl = .ok url) {found listing values : Answer}
    (ha : agent.upcoming 3 = [found, listing, values]) (hf : found.Finds name) {names : List String}
    (hl : listing.Lists name names) (hv : values.members?.isSome = true) :
    ∃ snapshot, (c.snapshot agent p).2 = .ok snapshot ∧
      (p.domain.isWildcard = false → ∃ descriptors, snapshot.describe name = .ok descriptors ∧
        descriptors.map (·.name) = names ∧ ∀ d ∈ descriptors, d.readable = true) ∧
      (p.domain.isWildcard = true →
        snapshot.describe name = .error (.instanceNotFound nameText)) := by
  obtain ⟨-, hw, hne, rfl⟩ := ObjectName.ofText?_eq_some_iff.mp hn
  obtain ⟨elements, hfound, element, helement, htext⟩ := hf
  obtain ⟨entries, hlisting, entry, hentry, hk, honly, hnames⟩ := hl
  obtain ⟨members, hmembers⟩ := Option.isSome_iff_exists.mp hv
  have hfound := Answer.elements?_eq_some_iff.mp hfound
  have hlisting := Answer.members?_eq_some_iff.mp hlisting
  have hmembers := Answer.members?_eq_some_iff.mp hmembers
  -- what the answers are read as
  let searched := (elements.filterMap Json.string?).filterMap ObjectName.ofText?
  have hsearched : ReplyValue.searched (.array elements) = .ok searched := rfl
  have hname : name ∈ searched :=
    List.mem_filterMap.mpr ⟨name.text, List.mem_filterMap.mpr ⟨element, helement, htext⟩, hn⟩
  obtain ⟨listed, hlisted⟩ := (fits_list_iff p.domain.source (.object entries)).mp rfl
  obtain ⟨read, hread⟩ := (fits_read_iff hp (.object members)).mp rfl
  have hsnapshot := snapshot_of_upcoming hu ha (List.ne_nil_of_mem hname)
    (bind_replyOf_eq_ok_iff.mpr ⟨_, hfound, hsearched⟩)
    (bind_replyOf_eq_ok_iff.mpr ⟨_, hlisting, hlisted⟩)
    (bind_replyOf_eq_ok_iff.mpr ⟨_, hmembers, hread⟩)
  have ho := Answer.ordered_of_value? hlisting
  have hj : Snapshot.Joinable searched listed read :=
    ⟨ReplyValue.distinctKeys_searched hsearched, ReplyValue.distinctKeys_listed hlisted,
      ReplyValue.distinctKeys_read hread, ReplyValue.nodup_listed hlisted ho⟩
  refine ⟨_, hsnapshot, fun hplain => ?_, fun hwild => ?_⟩
  · have hfirst := ReplyValue.firstOf?_listed ((Pattern.plainDomain_iff hp).mpr hplain) hlisted ho
      (Pattern.domain_of_accepts hplain hm) hw hne hentry hk honly
    have hjoined : Snapshot.joined? searched listed name = some (ReplyValue.descriptorsOf entry.2) :=
      Snapshot.joined?_eq_some_iff.mpr ⟨⟨name, hname, .refl name⟩, hfirst⟩
    refine ⟨ReplyValue.descriptorsOf entry.2, (hj.describe_eq_ok_iff hw.distinct).mpr hjoined,
      ReplyValue.map_name_of_attributeNames? hnames, fun d hd => ?_⟩
    obtain ⟨about, -, rfl⟩ := List.mem_map.mp hd
    rfl
  · have hnone : ¬ ObjectName.PlainDomain p.domain.source := fun hd => by
      rw [(Pattern.plainDomain_iff hp).mp hd] at hwild
      cases hwild
    obtain rfl := ReplyValue.listed_eq_nil (Pattern.noColon_of_ofText? hp) hnone hlisted
    have hnot : Snapshot.joined? searched [] name = none := by
      simp [Snapshot.joined?, Snapshot.firstOf?]
    rw [hj.describe_assemble hw.distinct, hnot]

/-! ### A thread pool -/

def pool : ObjectName := ⟨"io.crate.monitoring", [("type", "ThreadPools"), ("name", "search")]⟩

def poolFound : Answer :=
  .response 200
    ("\x7b\"request\": \x7b\"type\": \"search\"\x7d, " ++
      "\"value\": [\"io.crate.monitoring:type=ThreadPools,name=search\"], \"status\": 200\x7d")

/-- The pool is listed with its properties in another order. -/
def poolListing : Answer :=
  .response 200
    ("\x7b\"request\": \x7b\"type\": \"list\"\x7d, " ++
      "\"value\": \x7b\"name=search,type=ThreadPools\": " ++
      "\x7b\"attr\": \x7b\"Active\": \x7b\"type\": \"int\"\x7d\x7d\x7d\x7d, \"status\": 200\x7d")

def poolValues : Answer :=
  .response 200
    ("\x7b\"request\": \x7b\"type\": \"read\"\x7d, " ++
      "\"value\": \x7b\"io.crate.monitoring:name=search,type=ThreadPools\": " ++
      "\x7b\"Active\": 3\x7d\x7d, \"status\": 200\x7d")

theorem finds_pool : poolFound.Finds pool := by
  have hfound : poolFound.elements?.map (·.map Json.string?) = some [some pool.text] := by
    decide +kernel
  obtain ⟨elements, helements, hmap⟩ := Option.map_eq_some_iff.mp hfound
  obtain ⟨element, rfl, htext⟩ := List.map_eq_singleton_iff.mp hmap
  exact ⟨[element], helements, element, List.mem_cons_self, htext⟩

theorem lists_pool : poolListing.Lists pool ["Active"] := by
  have hlisted : poolListing.members?.map
      (·.map fun entry => (entry.1, ReplyValue.attributeNames? entry.2)) =
        some [("name=search,type=ThreadPools", some ["Active"])] := by decide +kernel
  have hkey : pool.IsListedAs "name=search,type=ThreadPools" :=
    ⟨[("name", "search"), ("type", "ThreadPools")], by decide, by decide⟩
  obtain ⟨entries, hentries, hmap⟩ := Option.map_eq_some_iff.mp hlisted
  obtain ⟨entry, rfl, hentry⟩ := List.map_eq_singleton_iff.mp hmap
  obtain ⟨hk, hnames⟩ := Prod.ext_iff.mp hentry
  refine ⟨[entry], hentries, entry, List.mem_cons_self, hk ▸ hkey, fun other ho _ => ?_, hnames⟩
  rw [List.mem_singleton.mp ho]

/-- With the domain of the node as it is, the pool is described. -/
theorem describe_listed_pool :
    let c := Client.create "http://localhost:8778/jolokia" 5000
    let agent := Agent.answering [poolFound, poolListing, poolValues]
    let p : Pattern := ⟨"io.crate.monitoring:*", ⟨"io.crate.monitoring"⟩, [], true⟩
    Pattern.ofText? "io.crate.monitoring:*" = some p ∧ p.accepts pool = true ∧
      ∃ snapshot, (c.snapshot agent p).2 = .ok snapshot ∧
        ∃ descriptors, snapshot.describe pool = .ok descriptors ∧
          descriptors.map (·.name) = ["Active"] := by
  intro c agent p
  have hp : Pattern.ofText? "io.crate.monitoring:*" = some p := by rfl
  have hn : ObjectName.ofText? "io.crate.monitoring:type=ThreadPools,name=search" = some pool := by
    decide +kernel
  have hm : p.accepts pool = true := by decide +kernel
  have hread : poolValues.members?.isSome = true := by decide +kernel
  have ha : agent.upcoming 3 = [poolFound, poolListing, poolValues] := rfl
  obtain ⟨url, hu⟩ : ∃ url, Url.ofText c.baseUrl = .ok url := by
    have hok : (Url.ofText c.baseUrl).isOk = true := by decide +kernel
    cases hu : Url.ofText c.baseUrl with
    | ok url => exact ⟨url, rfl⟩
    | error fault =>
      rw [hu] at hok
      cases hok
  obtain ⟨snapshot, hs, hplain, -⟩ :=
    describe_listed hp hn hm hu ha finds_pool lists_pool hread
  obtain ⟨descriptors, hd, hnames, -⟩ := hplain (by decide)
  exact ⟨hp, hm, snapshot, hs, descriptors, hd, hnames⟩

/-- With a wildcard in the domain the same answers do not describe it, although a configuration with
this domain is valid and the pattern matches the pool. -/
theorem describe_ne_ok_pool :
    let c := Client.create "http://localhost:8778/jolokia" 5000
    let agent := Agent.answering [poolFound, poolListing, poolValues]
    let p : Pattern := ⟨"io.crate.*:*", ⟨"io.crate.*"⟩, [], true⟩
    let config : Config := ⟨.default, .default, ⟨"io.crate.*", "*", "crate"⟩⟩
    config.validate = .ok () ∧ config.settings.objectPattern = "io.crate.*:*" ∧
      Pattern.ofText? "io.crate.*:*" = some p ∧
      ObjectName.ofText? "io.crate.monitoring:type=ThreadPools,name=search" = some pool ∧
      p.accepts pool = true ∧ agent.upcoming 3 = [poolFound, poolListing, poolValues] ∧
      poolFound.Finds pool ∧ poolListing.Lists pool ["Active"] ∧
      poolValues.members?.isSome = true ∧
      ∃ snapshot, (c.snapshot agent p).2 = .ok snapshot ∧
        ∀ descriptors, snapshot.describe pool ≠ .ok descriptors := by
  intro c agent p config
  refine ⟨by decide +kernel, by decide +kernel, by rfl, by decide +kernel, by decide +kernel, rfl,
    finds_pool, lists_pool, by decide +kernel, ?_⟩
  have hnot : (c.snapshot agent p).2.toOption.map (fun snapshot => (snapshot.describe pool).toOption) =
      some none := by decide +kernel
  cases hs : (c.snapshot agent p).2 with
  | error fault =>
    rw [hs] at hnot
    cases hnot
  | ok snapshot =>
    refine ⟨snapshot, rfl, fun descriptors hd => ?_⟩
    rw [hs, Except.toOption, Option.map_some, hd] at hnot
    cases hnot

end Client
end BeanMetrics
