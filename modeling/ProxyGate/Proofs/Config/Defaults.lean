import Mathlib.Logic.Relation
import ProxyGate.Config.Load
import ProxyGate.Proofs.Config.Schema

/-!
# A key sets its field, and an omitted key its default

A `Place` is where in a document a table stands and where in a configuration its record.
`Place.focus` carries readings in and out of a document, whatever the place is.  Two documents
`SayTheSame` when one becomes the other by idle changes of its tables, and
`omitted_settings_are_default` is the result: a document is read as what it means by the schemas,
documents that say the same come to the same, and every key that is there makes the difference of its
own field.
-/

namespace ProxyGate.Config

open Toml (Value Table)

/-! ## Places -/

/-- Where in a document a table stands, and in a configuration its record. -/
inductive Place where
  | top
  | headers
  | reports
  | listener (index : Nat)

namespace Place

/-- What the table at a place is read as. -/
abbrev Record : Place → Type
  | top => Config
  | headers => Nat
  | reports => Observability
  | listener _ => Listener

/-- The schema of a place. -/
def schema : (place : Place) → Schema place.Record
  | top => topSchema
  | headers => headersSchema
  | reports => reportsSchema
  | listener _ => listenerSchema

/-- The table at a place of a document. -/
def table? (doc : Table) : Place → Option Table
  | top => some doc
  | headers => do (← doc.get? "proxy_protocol").entries?
  | reports => do (← doc.get? "observability").entries?
  | listener index => do (← (← items? (← doc.get? "listeners"))[index]?).entries?

/-- A document with another table at a place where it has one. -/
def put (table doc : Table) : Place → Table
  | top => table
  | headers => doc.adjust "proxy_protocol" (Value.withEntries table)
  | reports => doc.adjust "observability" (Value.withEntries table)
  | listener index => doc.adjust "listeners" (Value.setItem index table)

/-- The record at a place of a configuration. -/
def record? (config : Config) : (place : Place) → Option place.Record
  | top => some config
  | headers => some config.headerTimeout
  | reports => some config.observability
  | listener index => config.listeners[index]?

/-- A configuration with the record at a place changed. -/
def update (config : Config) : (place : Place) → (place.Record → place.Record) → Config
  | top, change => change config
  | headers, change => { config with headerTimeout := change config.headerTimeout }
  | reports, change => { config with observability := change config.observability }
  | listener index, change => { config with listeners := config.listeners.modify index change }

theorem record?_update (config : Config) (place : Place) (change : place.Record → place.Record) :
    place.record? (place.update config change) = (place.record? config).map change := by
  cases place with
  | listener index => exact List.getElem?_modify_eq ..
  | top | headers | reports => rfl

theorem update_update (config : Config) (place : Place)
    (first second : place.Record → place.Record) :
    place.update (place.update config first) second =
      place.update config fun record => second (first record) := by
  cases place with
  | listener index =>
    rw [update, update, update, List.modify_modify_eq]
    rfl
  | top | headers | reports => rfl

/-- Nothing changes where the record that is put there was there before. -/
theorem update_const {config : Config} {place : Place} {record : place.Record}
    (h : place.record? config = some record) : place.update config (fun _ => record) = config := by
  cases place with
  | listener index =>
    have hmodify : config.listeners.modify index (fun _ => record) = config.listeners := by
      refine List.ext_getElem? fun other => ?_
      rw [List.getElem?_modify]
      by_cases hindex : index = other
      · subst hindex
        rw [show config.listeners[index]? = some record from h]
        simp
      · simp [hindex]
    rw [update, hmodify]
  | top | headers | reports =>
    cases h
    rfl

/-- A table is read where it stands: its record stands in the configuration, and so does the record
of any other table that is put in its place. -/
theorem focus {place : Place} {doc table : Table} {config : Config}
    (htable : place.table? doc = some table) (h : topSchema.Reads doc config) :
    ∃ record, place.record? config = some record ∧ place.schema.Reads table record ∧
      ∀ {other : Table} {changed : place.Record}, place.schema.Reads other changed →
        topSchema.Reads (place.put other doc) (place.update config fun _ => changed) := by
  cases place with
  | top =>
    cases htable
    exact ⟨config, rfl, h, id⟩
  | headers =>
    obtain ⟨value, hvalue, hentries⟩ := Option.bind_eq_some_iff.mp htable
    obtain ⟨form, rfl⟩ := Value.entries?_eq_some_iff.mp hentries
    have hmeans := h.means_of_some TopKey.headers hvalue
    refine ⟨_, rfl, headersSchema.means_table_iff.mp hmeans, fun hother => ?_⟩
    rw [put, Table.adjust_eq_set hvalue]
    exact h.set TopKey.headers (headersSchema.means_table_iff.mpr hother)
  | reports =>
    obtain ⟨value, hvalue, hentries⟩ := Option.bind_eq_some_iff.mp htable
    obtain ⟨form, rfl⟩ := Value.entries?_eq_some_iff.mp hentries
    have hmeans := h.means_of_some TopKey.reports hvalue
    refine ⟨_, rfl, reportsSchema.means_table_iff.mp hmeans, fun hother => ?_⟩
    rw [put, Table.adjust_eq_set hvalue]
    exact h.set TopKey.reports (reportsSchema.means_table_iff.mpr hother)
  | listener index =>
    obtain ⟨value, hvalue, htable⟩ := Option.bind_eq_some_iff.mp htable
    obtain ⟨items, hitems, htable⟩ := Option.bind_eq_some_iff.mp htable
    obtain ⟨item, hitem, hentries⟩ := Option.bind_eq_some_iff.mp htable
    obtain ⟨form, rfl⟩ := Value.entries?_eq_some_iff.mp hentries
    obtain ⟨meant, hmeant, hlisteners⟩ : MeansListeners value config.listeners :=
      h.means_of_some TopKey.listeners hvalue
    cases (Value.items?_eq_some_iff.mpr hmeant).symm.trans hitems
    obtain ⟨listener, hthere, hmeans⟩ := forall₂_getElem? hlisteners hitem
    refine ⟨listener, hthere, listenerSchema.means_table_iff.mp hmeans,
      fun {other changed} hother => ?_⟩
    -- only the item at the index means something else now
    have hchanged : MeansListeners (value.setItem index other)
        (config.listeners.modify index fun _ => changed) := by
      refine ⟨items.modify index (Value.withEntries other), ?_, ?_⟩
      · rw [← Value.items?_eq_some_iff, Value.items?_setItem, hitems, Option.map_some]
      · refine forall₂_modify hlisteners fun before _ hbefore _ _ => ?_
        cases hitem.symm.trans hbefore
        exact listenerSchema.means_table_iff.mpr hother
    rw [put, Table.adjust_eq_set hvalue]
    exact h.set TopKey.listeners hchanged

end Place

/-! ## Documents -/

/-- A change of a document that says nothing new: one of its tables is changed so. -/
def Idles (doc other : Table) : Prop :=
  ∃ (place : Place) (table changed : Table), place.table? doc = some table ∧
    place.schema.Idle table changed ∧ other = place.put changed doc

/-- Two documents say the same: one becomes the other by changes that say nothing new. -/
def SayTheSame : Table → Table → Prop := Relation.ReflTransGen Idles

theorem Idles.reads {doc other : Table} {config : Config} (hidles : Idles doc other)
    (h : topSchema.Reads doc config) : topSchema.Reads other config := by
  obtain ⟨place, table, changed, htable, hidle, rfl⟩ := hidles
  obtain ⟨record, hthere, hread, hput⟩ := Place.focus htable h
  have hchanged := hput (hidle.reads hread)
  rw [Place.update_const hthere] at hchanged
  exact hchanged

theorem SayTheSame.reads {doc other : Table} {config : Config} (hsame : SayTheSame doc other)
    (h : topSchema.Reads doc config) : topSchema.Reads other config := by
  induction hsame with
  | refl => exact h
  | tail _ hidles ih => exact hidles.reads ih

/-- A text comes to what its document comes to. -/
theorem parse_of_ofTable? {source : String} {doc : Table} {config : Config}
    (hsource : Toml.parse? source = some doc) (hread : ofTable? doc = some config) :
    parse source = config.accept := by
  have hdecode : decode? source = some config := by
    rw [decode?, hsource]
    exact hread
  rw [parse, hdecode]

/-- **A key sets its own field and nothing else, and an omitted key means the default.**  A document
is read as a configuration just where it means that by the schemas: an absent key means the default
of its field, and a key that is there what its value means.  Given a document that is read so:

* Documents that say the same are read as the same configuration, and a text of either is accepted or
  refused alike.  What may come and go in any table, any number of times, are unknown keys, and what
  may be taken out are keys whose value means the default of their field.
* The table at a place is read as the record there.  A field whose key is absent has its default.  A
  key that is there can be taken out; then its field has the default, and the configuration differs
  from that one by what the key's value means in its field. -/
theorem omitted_settings_are_default :
    (∀ doc config, ofTable? doc = some config ↔ topSchema.Reads doc config) ∧
    ∀ doc config, ofTable? doc = some config →
      (∀ other, SayTheSame doc other → ofTable? other = some config ∧
        ∀ source, Toml.parse? source = some other → parse source = config.accept) ∧
      ∀ (place : Place) (table : Table), place.table? doc = some table →
        ∃ record, place.record? config = some record ∧ ∀ key : place.schema.Key,
          let name := place.schema.name key
          (table.get? name = none → place.schema.get key record = place.schema.defaultOf key) ∧
          ∀ value, table.get? name = some value → ∃ given bare,
            place.schema.means key value given ∧
            ofTable? (place.put (table.erase name) doc) = some bare ∧
            place.record? bare =
              some (place.schema.set key (place.schema.defaultOf key) record) ∧
            config = place.update bare (place.schema.set key given) := by
  refine ⟨fun _ _ => ofTable?_eq_some_iff, fun doc config hread => ?_⟩
  have h := ofTable?_eq_some_iff.mp hread
  refine ⟨fun other hsame => ?_, fun place table htable => ?_⟩
  · have hother := ofTable?_eq_some_iff.mpr (hsame.reads h)
    exact ⟨hother, fun _ hsource => parse_of_ofTable? hsource hother⟩
  · obtain ⟨record, hthere, hrecord, hput⟩ := Place.focus htable h
    refine ⟨record, hthere, fun key => ⟨hrecord.get_of_none key, fun value hvalue => ?_⟩⟩
    have hgiven := hrecord.means_of_some key hvalue
    have hbare := hput (hrecord.erase key)
    refine ⟨_, _, hgiven, ofTable?_eq_some_iff.mpr hbare, ?_, ?_⟩
    · rw [Place.record?_update, hthere]
      rfl
    · -- what was given is what the record had, so setting it again undoes the default
      rw [Place.update_update, place.schema.set_set, place.schema.set_get,
        Place.update_const hthere]

/-- What may be taken out of a document and added to it, what a text of it comes to, and what one of
its keys does. -/
theorem omitted_settings_are_default_two_listeners :
    let reports : Value := .table .header [("log_format", .text "compact")]
    let doc : Table := [("listeners", .tables
      [[("bind_address", .text ":80|P"), ("max_connections", .integer 10000)]]
      [("proxy_protocol", .bool true)]), ("observability", reports), ("title", .text "gate")]
    let other : Table := [("listeners", .tables [[("bind_address", .text ":80|P")]]
      [("proxy_protocol", .bool true), ("weight", .integer 3)]), ("observability", reports)]
    let bare : Config := {
      listeners := [{}, { proxyProtocol := true }]
      observability := { logFormat := .compact } }
    let config : Config := { bare with
      listeners := [{ bindAddress := ":80|P" }, { proxyProtocol := true }] }
    ofTable? doc = some config ∧ ofTable? other = some config ∧
      (∀ source, Toml.parse? source = some other → parse source = config.accept) ∧
      config.observability.logLevel = "info" ∧
      config = (Place.listener 0).update bare
        (listenerSchema.set ListenerKey.bindAddress ":80|P") := by
  intro reports doc other bare config
  have hread : ofTable? doc = some config := by decide
  obtain ⟨hsame, hplaces⟩ := omitted_settings_are_default.2 doc config hread
  have htitle : ∀ key, topSchema.name key ≠ "title" := fun key => by cases key <;> decide
  have hweight : ∀ key, listenerSchema.name key ≠ "weight" := fun key => by cases key <;> decide
  have hlimit (table : Table) (hthere : table.get? "max_connections" = some (.integer 10000)) :
      listenerSchema.Idle table (table.erase "max_connections") :=
    @Schema.Idle.dropped _ listenerSchema table ListenerKey.maxConnections _ hthere rfl
  have hsteps : SayTheSame doc other := by
    refine .head ⟨.top, _, _, rfl, topSchema.idle_erase doc htitle, rfl⟩ ?_
    refine .head ⟨.listener 0, _, _, rfl, hlimit _ rfl, rfl⟩ ?_
    exact .single ⟨.listener 1, _, _, rfl, listenerSchema.idle_set _ hweight (.integer 3), rfl⟩
  obtain ⟨hother, haccepted⟩ := hsame other hsteps
  refine ⟨hread, hother, haccepted, ?_, ?_⟩
  · obtain ⟨record, hthere, hkeys⟩ := hplaces .reports _ rfl
    cases hthere
    exact (hkeys ReportsKey.logLevel).1 rfl
  · obtain ⟨record, _, hkeys⟩ := hplaces (.listener 0) _ rfl
    obtain ⟨given, without, hgiven, hwithout, _, hdiffers⟩ :=
      (hkeys ListenerKey.bindAddress).2 _ rfl
    cases hgiven
    cases hwithout
    exact hdiffers

end ProxyGate.Config
