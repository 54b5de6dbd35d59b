import QueueFabric.Audit
import QueueFabric.Lib.Enrollment

/-!
What the identity of a queue denotes. The queues of a fabric are numbered from 1 in
the order of their declarations, so their labels, resource and name, form a list,
and an identity denotes the label at its place.
-/

namespace QueueFabric

open QueueRecord Fabric

structure Label where
  resource : ResourceId
  name : Text
  deriving DecidableEq

def QueueRecord.label (queue : QueueRecord) : Label :=
  ⟨queue.definition.resource, queue.definition.name⟩

def DeclareQueuePayload.label (payload : DeclareQueuePayload) : Label :=
  ⟨payload.resource, payload.name⟩

/-- The declaration a request carries, as `apply_locked` takes it. -/
def MutationRequest.declaration (request : MutationRequest) : Option DeclareQueuePayload :=
  match request.kind, request.payload with
  | .declareQueue, .declareQueue payload => some payload
  | _, _ => none

theorem QueueRecord.Identical.label {before after : QueueRecord}
    (identical : Identical before after) : after.label = before.label := by
  rw [QueueRecord.label, identical.resource, identical.name]
  rfl

/-! Places. -/

def idAt (place : Nat) : QueueId := ⟨UInt64.ofNat (place + 1)⟩

def labelAt (labels : List Label) (id : QueueId) : Option Label :=
  if id.value = 0 then none else labels[id.value.toNat - 1]?

theorem idAt_toNat {place : Nat} (small : place + 1 < 2 ^ 64) :
    (idAt place).value.toNat = place + 1 := by
  rw [idAt, UInt64.toNat_ofNat', Nat.mod_eq_of_lt small]

theorem idAt_injective {first second : Nat} (small : first + 1 < 2 ^ 64)
    (other : second + 1 < 2 ^ 64) (same : idAt first = idAt second) : first = second := by
  have places := congrArg (fun id : QueueId => id.value.toNat) same
  simp only [idAt_toNat small, idAt_toNat other] at places
  omega

theorem labelAt_eq_some {labels : List Label} {id : QueueId} {label : Label} :
    labelAt labels id = some label ↔
      ∃ place, place + 1 = id.value.toNat ∧ labels[place]? = some label := by
  rw [labelAt]
  by_cases zero : id.value = 0
  · rw [if_pos zero, zero]
    constructor
    · intro absurd
      cases absurd
    · rintro ⟨place, placed, _⟩
      exact absurd placed (Nat.succ_ne_zero place)
  · rw [if_neg zero]
    have positive : id.value.toNat ≠ 0 := fun none => zero (UInt64.toNat_inj.mp none)
    constructor
    · intro found
      exact ⟨id.value.toNat - 1, by omega, found⟩
    · rintro ⟨place, placed, found⟩
      have same : id.value.toNat - 1 = place := by omega
      rw [same]
      exact found

theorem labelAt_idAt {labels : List Label} {place : Nat} (small : place + 1 < 2 ^ 64) :
    labelAt labels (idAt place) = labels[place]? := by
  have toNat := idAt_toNat small
  have positive : (idAt place).value ≠ 0 := by
    intro zero
    rw [zero] at toNat
    cases toNat
  rw [labelAt, if_neg positive, toNat, Nat.add_sub_cancel]

/-- Labels are only ever added at the end, so an identity keeps what it denotes. -/
theorem labelAt_extended {labels more : List Label} (extended : labels <+: more) {id : QueueId}
    {label : Label} (denoted : labelAt labels id = some label) : labelAt more id = some label := by
  obtain ⟨place, placed, found⟩ := labelAt_eq_some.mp denoted
  obtain ⟨rest, rfl⟩ := extended
  refine labelAt_eq_some.mpr ⟨place, placed, ?_⟩
  rw [List.getElem?_append_left (List.getElem?_eq_some_iff.mp found).1]
  exact found

theorem labelAt_injective {labels : List Label} (distinct : labels.Nodup) {first second : QueueId}
    {label : Label} (one : labelAt labels first = some label)
    (two : labelAt labels second = some label) : first = second := by
  obtain ⟨place, placed, found⟩ := labelAt_eq_some.mp one
  obtain ⟨other, otherPlaced, otherFound⟩ := labelAt_eq_some.mp two
  have below := (List.getElem?_eq_some_iff.mp found).1
  have same : place = other :=
    (List.getElem?_inj below distinct).mp (found.trans otherFound.symm)
  have values : first.value.toNat = second.value.toNat := by omega
  cases first
  cases second
  exact congrArg Ident.mk (UInt64.toNat_inj.mp values)

theorem mem_iff_labelAt {labels : List Label} (few : labels.length < 2 ^ 64) {label : Label} :
    label ∈ labels ↔ ∃ id, labelAt labels id = some label := by
  constructor
  · intro listed
    obtain ⟨place, found⟩ := List.mem_iff_getElem?.mp listed
    have below := (List.getElem?_eq_some_iff.mp found).1
    exact ⟨idAt place, by rw [labelAt_idAt (by omega)]; exact found⟩
  · rintro ⟨id, denoted⟩
    obtain ⟨place, _, found⟩ := labelAt_eq_some.mp denoted
    exact List.mem_of_getElem? found

theorem labelAt_concat {labels : List Label} (few : labels.length + 1 < 2 ^ 64) (label : Label)
    (id : QueueId) : labelAt (labels ++ [label]) id =
      if idAt labels.length = id then some label else labelAt labels id := by
  by_cases last : idAt labels.length = id
  · rw [if_pos last, ← last, labelAt_idAt few]
    exact List.getElem?_concat_length
  · rw [if_neg last]
    apply Option.ext
    intro other
    constructor
    · intro denoted
      obtain ⟨place, placed, found⟩ := labelAt_eq_some.mp denoted
      refine labelAt_eq_some.mpr ⟨place, placed, ?_⟩
      have below := (List.getElem?_eq_some_iff.mp found).1
      rw [List.length_append, List.length_singleton] at below
      have inside : place < labels.length := by
        by_contra outside
        apply last
        have same : place = labels.length := by omega
        have value : (idAt labels.length).value.toNat = id.value.toNat := by
          rw [idAt_toNat few]
          omega
        have equal := UInt64.toNat_inj.mp value
        cases id
        exact congrArg Ident.mk equal
      rwa [List.getElem?_append_left inside] at found
    · exact labelAt_extended (List.prefix_append labels [label])

/-! Queues under their identities. -/

/-- The labels a fabric of this configuration can hold. -/
structure Permitted (config : FabricConfig) (labels : List Label) : Prop where
  distinct : labels.Nodup
  total : labels.length ≤ config.limits.maxQueuesTotal.toNat
  quota : ∀ resource : ResourceId, labels.countP (fun label => label.resource = resource) ≤
    config.limits.maxQueuesPerResource.toNat

theorem Permitted.few {config : FabricConfig} {labels : List Label}
    (permitted : Permitted config labels) : labels.length < 2 ^ 64 := by
  have small := config.limits.maxQueuesTotal.toNat_lt
  have total := permitted.total
  omega

theorem Permitted.within {config : FabricConfig} {labels more : List Label}
    (permitted : Permitted config more) (shorter : labels <+: more) : Permitted config labels where
  distinct := permitted.distinct.sublist shorter.sublist
  total := shorter.length_le.trans permitted.total
  quota resource := (shorter.sublist.countP_le).trans (permitted.quota resource)

theorem Permitted.concat {config : FabricConfig} {labels : List Label}
    (permitted : Permitted config labels) {label : Label} (fresh : label ∉ labels)
    (room : labels.length < config.limits.maxQueuesTotal.toNat)
    (few : labels.countP (fun other => other.resource = label.resource) <
      config.limits.maxQueuesPerResource.toNat) : Permitted config (labels ++ [label]) where
  distinct := List.nodup_append.mpr ⟨permitted.distinct, List.nodup_singleton label,
    fun first held last new same => fresh (List.mem_singleton.mp new ▸ same ▸ held)⟩
  total := by
    rw [List.length_append, List.length_singleton]
    exact room
  quota resource := by
    rw [List.countP_append, List.countP_singleton]
    by_cases here : label.resource = resource
    · subst here
      simpa using few
    · simpa [here] using permitted.quota resource

/-- The queues of a table are the labels, each stored under the identity of its place. -/
structure Catalog (labels : List Label) (queues : Table QueueId QueueRecord) : Prop where
  listed : ∀ id, (queues.get? id).map QueueRecord.label = labelAt labels id
  keyed : ∀ id queue, queues.get? id = some queue → queue.definition.id = id

namespace Catalog

variable {labels : List Label} {queues : Table QueueId QueueRecord}

theorem denotes (catalog : Catalog labels queues) {id : QueueId} {queue : QueueRecord}
    (found : queues.get? id = some queue) : labelAt labels id = some queue.label := by
  rw [← catalog.listed, found]
  rfl

theorem found (catalog : Catalog labels queues) {id : QueueId} {label : Label}
    (denoted : labelAt labels id = some label) :
    ∃ queue, queues.get? id = some queue ∧ queue.label = label := by
  rw [← catalog.listed] at denoted
  exact Option.map_eq_some_iff.mp denoted

theorem empty : Catalog [] .empty where
  listed id := by
    rw [Table.get?_empty, labelAt]
    simp
  keyed id queue found := by
    rw [Table.get?_empty] at found
    cases found

theorem related (catalog : Catalog labels queues) {after : Table QueueId QueueRecord}
    (identical : Table.Related Identical queues after) : Catalog labels after where
  listed id := by
    rw [← catalog.listed]
    have compared := identical.find id
    cases before : queues.get? id with
    | none =>
        rw [before] at compared
        cases later : after.get? id with
        | none => rfl
        | some queue =>
            rw [later] at compared
            cases compared
    | some old =>
        rw [before] at compared
        cases later : after.get? id with
        | none =>
            rw [later] at compared
            cases compared
        | some queue =>
            rw [later] at compared
            cases compared with
            | some kept => exact congrArg some kept.label
  keyed id queue found := by
    obtain ⟨old, stored, kept⟩ := identical.get? found
    rw [kept.id]
    exact catalog.keyed id old stored

/-- Two tables whose labels are prefixes of one list, one laid above the other. -/
theorem laid {first second both : List Label} {above below : Table QueueId QueueRecord}
    (one : Catalog first above) (two : Catalog second below) (longer : first <+: both)
    (other : second <+: both) (either : both = first ∨ both = second)
    (found : ∀ id, queues.get? id = (above.get? id).or (below.get? id)) : Catalog both queues where
  listed id := by
    rw [found]
    cases covering : above.get? id with
    | some queue => exact (labelAt_extended longer (one.denotes covering)).symm
    | none =>
        have unlisted := one.listed id
        rw [covering, Option.map_none] at unlisted
        rw [Option.none_or]
        cases covered : below.get? id with
        | some queue => exact (labelAt_extended other (two.denotes covered)).symm
        | none =>
            have absent := two.listed id
            rw [covered, Option.map_none] at absent
            rcases either with rfl | rfl
            · exact unlisted
            · exact absent
  keyed id queue held := by
    rw [found, Option.or_eq_some_iff] at held
    rcases held with upper | ⟨_, lower⟩
    · exact one.keyed id queue upper
    · exact two.keyed id queue lower

theorem keys_perm (catalog : Catalog labels queues) (few : labels.length < 2 ^ 64) :
    queues.keys.Perm ((List.range labels.length).map idAt) := by
  have distinct : ((List.range labels.length).map idAt).Nodup := by
    refine List.Nodup.map_on ?_ List.nodup_range
    intro first below second other same
    rw [List.mem_range] at below other
    exact idAt_injective (by omega) (by omega) same
  refine (List.perm_ext_iff_of_nodup queues.nodup_keys distinct).mpr fun id => ?_
  rw [Table.mem_keys_iff, Table.contains, ← Option.isSome_map, catalog.listed, List.mem_map]
  constructor
  · intro present
    obtain ⟨label, denoted⟩ := Option.isSome_iff_exists.mp present
    obtain ⟨place, placed, found⟩ := labelAt_eq_some.mp denoted
    have below := (List.getElem?_eq_some_iff.mp found).1
    refine ⟨place, List.mem_range.mpr below, ?_⟩
    have value : (idAt place).value.toNat = place + 1 := idAt_toNat (by omega)
    cases id
    exact congrArg Ident.mk (UInt64.toNat_inj.mp (value.trans placed))
  · rintro ⟨place, below, rfl⟩
    rw [List.mem_range] at below
    rw [labelAt_idAt (by omega), List.getElem?_eq_getElem below]
    rfl

theorem perm (catalog : Catalog labels queues) (few : labels.length < 2 ^ 64) :
    (queues.values.map QueueRecord.label).Perm labels := by
  have read : (queues.values.map QueueRecord.label).map some =
      queues.keys.map (labelAt labels) := by
    rw [Table.values, Table.keys, List.map_map, List.map_map, List.map_map]
    refine List.map_congr_left fun entry member => ?_
    exact (catalog.denotes ((Table.mem_entries_iff _ _ _).mp member)).symm
  have placed : ((List.range labels.length).map idAt).map (labelAt labels) = labels.map some := by
    apply List.ext_getElem?
    intro place
    simp only [List.getElem?_map]
    by_cases below : place < labels.length
    · simp [below, labelAt_idAt (show place + 1 < 2 ^ 64 by omega)]
    · simp [below]
  refine (List.map_perm_map_iff (Option.some_injective Label)).mp ?_
  rw [read, ← placed]
  exact (catalog.keys_perm few).map (labelAt labels)

theorem size (catalog : Catalog labels queues) (few : labels.length < 2 ^ 64) :
    queues.size = labels.length := by
  have counted := (catalog.perm few).length_eq
  rwa [List.length_map, Table.values, List.length_map] at counted

theorem resourceQueues (catalog : Catalog labels queues) (few : labels.length < 2 ^ 64)
    (resource : ResourceId) :
    resourceQueues queues resource = labels.countP fun label => label.resource = resource := by
  rw [← (catalog.perm few).countP_eq, List.countP_map]
  rfl

end Catalog

/-- A catalog with the name index and the identity counter that go with it. -/
structure Registered (labels : List Label) (tables : Tables) : Prop where
  catalog : Catalog labels tables.queues
  permitted : Permitted tables.config labels
  next : tables.nextQueueId = UInt64.ofNat (labels.length + 1)
  named : ∀ (label : Label) id,
    tables.queueNames.get? (nameKey label.resource label.name) = some id ↔
      labelAt labels id = some label

namespace Registered

variable {labels : List Label} {before after : Tables}

theorem free_iff (registered : Registered labels before) (label : Label) :
    before.queueNames.get? (nameKey label.resource label.name) = none ↔ label ∉ labels := by
  rw [mem_iff_labelAt registered.permitted.few, Option.eq_none_iff_forall_ne_some]
  constructor
  · rintro free ⟨id, denoted⟩
    exact free id ((registered.named label id).mpr denoted)
  · intro absent id taken
    exact absent ⟨id, (registered.named label id).mp taken⟩

theorem moved (registered : Registered labels before)
    (queues : Table.Related Identical before.queues after.queues)
    (names : after.queueNames = before.queueNames) (next : after.nextQueueId = before.nextQueueId)
    (config : after.config = before.config) : Registered labels after where
  catalog := registered.catalog.related queues
  permitted := config ▸ registered.permitted
  next := next.trans registered.next
  named label id := by
    rw [names]
    exact registered.named label id

theorem fresh (registered : Registered labels before) :
    (⟨before.nextQueueId⟩ : QueueId) = idAt labels.length := by
  rw [registered.next]
  rfl

theorem vacant (registered : Registered labels before) :
    before.queues.get? ⟨before.nextQueueId⟩ = none := by
  rw [registered.fresh, ← Option.map_eq_none_iff, registered.catalog.listed,
    Option.eq_none_iff_forall_ne_some]
  intro label denoted
  obtain ⟨place, placed, found⟩ := labelAt_eq_some.mp denoted
  have below := (List.getElem?_eq_some_iff.mp found).1
  have few := registered.permitted.few
  rw [idAt, UInt64.toNat_ofNat'] at placed
  omega

theorem declared (registered : Registered labels before) {payload : DeclareQueuePayload}
    {resource : ResourceRecord} {record : QueueRecord}
    (free : before.queueNames.get? (nameKey payload.resource payload.name) = none)
    (admissible : Fabric.Admissible before.config before.queues payload resource)
    (origin : DeclaredFrom payload ⟨before.nextQueueId⟩ record)
    (queues : after.queues = before.queues.emplace ⟨before.nextQueueId⟩ record)
    (names : after.queueNames = before.queueNames.emplace
      (nameKey payload.resource payload.name) ⟨before.nextQueueId⟩)
    (next : after.nextQueueId = before.nextQueueId + 1) (config : after.config = before.config) :
    Registered (labels ++ [payload.label]) after := by
  have unlisted : payload.label ∉ labels := (registered.free_iff payload.label).mp free
  have few := registered.permitted.few
  have room := admissible.room
  rw [registered.catalog.size few] at room
  have quota := admissible.few
  rw [registered.catalog.resourceQueues few] at quota
  have small := before.config.limits.maxQueuesTotal.toNat_lt
  have wide : labels.length + 1 < 2 ^ 64 := by omega
  have labelled : record.label = payload.label := by
    rw [QueueRecord.label, origin.resource, origin.name]
    rfl
  rw [Table.emplace_of_absent _ _ registered.vacant] at queues
  rw [Table.emplace_of_absent _ _ free] at names
  refine ⟨⟨fun id => ?_, fun id queue found => ?_⟩, ?_, ?_, fun label id => ?_⟩
  · rw [queues, Table.get?_insert, labelAt_concat wide, registered.fresh]
    by_cases here : idAt labels.length = id
    · rw [if_pos here, if_pos here, Option.map_some, labelled]
    · rw [if_neg here, if_neg here]
      exact registered.catalog.listed id
  · rw [queues, Table.get?_insert] at found
    by_cases here : (⟨before.nextQueueId⟩ : QueueId) = id
    · rw [if_pos here, Option.some.injEq] at found
      rw [← found, origin.id, here]
    · rw [if_neg here] at found
      exact registered.catalog.keyed id queue found
  · rw [config]
    exact registered.permitted.concat unlisted room quota
  · rw [next, registered.next, List.length_append, List.length_singleton]
    exact (UInt64.ofNat_add _ 1).symm
  · rw [names, Table.get?_insert, labelAt_concat wide, registered.fresh]
    by_cases same : nameKey payload.resource payload.name = nameKey label.resource label.name
    · have equal : payload.label = label := by
        obtain ⟨resources, texts⟩ := nameKey_injective same
        rw [DeclareQueuePayload.label, resources, texts]
      rw [if_pos same, ← equal]
      constructor
      · intro here
        rw [Option.some.injEq] at here
        rw [if_pos here]
      · intro denoted
        by_cases here : idAt labels.length = id
        · rw [here]
        · rw [if_neg here] at denoted
          exact absurd ((mem_iff_labelAt few).mpr ⟨id, denoted⟩) unlisted
    · have different : payload.label ≠ label := by
        rintro rfl
        exact same rfl
      rw [if_neg same, registered.named label id]
      by_cases here : idAt labels.length = id
      · rw [if_pos here, Option.some.injEq]
        constructor
        · intro denoted
          rw [← here, labelAt_idAt wide, List.getElem?_eq_none (Nat.le_refl _)] at denoted
          cases denoted
        · exact fun equal => absurd equal different
      · rw [if_neg here]

end Registered

/-! Indexes rebuilt from the queues. -/

namespace Fabric

theorem maxBy_spec {α : Type} (items : List α) (value : α → UInt64) :
    (∀ item ∈ items, value item ≤ maxBy items value) ∧
      (maxBy items value = 0 ∨ ∃ item ∈ items, value item = maxBy items value) := by
  have scanned : ∀ best : UInt64,
      let last := items.foldl (fun best item => if value item > best then value item else best) best
      best ≤ last ∧ (∀ item ∈ items, value item ≤ last) ∧
        (last = best ∨ ∃ item ∈ items, value item = last) := by
    induction items with
    | nil => exact fun best => ⟨UInt64.le_refl best, by simp, .inl rfl⟩
    | cons item rest ih =>
        intro best
        by_cases larger : value item > best
        · obtain ⟨above, bound, reached⟩ := ih (value item)
          simp only [List.foldl_cons, if_pos larger]
          refine ⟨UInt64.le_trans (UInt64.le_of_lt larger) above, ?_, .inr ?_⟩
          · intro other listed
            rcases List.mem_cons.mp listed with rfl | later
            · exact above
            · exact bound other later
          · rcases reached with same | ⟨other, listed, same⟩
            · exact ⟨item, List.mem_cons_self, same.symm⟩
            · exact ⟨other, List.mem_cons_of_mem _ listed, same⟩
        · obtain ⟨above, bound, reached⟩ := ih best
          simp only [List.foldl_cons, if_neg larger]
          refine ⟨above, ?_, ?_⟩
          · intro other listed
            rcases List.mem_cons.mp listed with rfl | later
            · exact UInt64.le_trans (UInt64.not_lt.mp larger) above
            · exact bound other later
          · rcases reached with same | ⟨other, listed, same⟩
            · exact .inl same
            · exact .inr ⟨other, List.mem_cons_of_mem _ listed, same⟩
  exact ⟨(scanned 0).2.1, (scanned 0).2.2⟩

theorem maxBy_catalog {labels : List Label} {queues : Table QueueId QueueRecord}
    (catalog : Catalog labels queues) (few : labels.length < 2 ^ 64) :
    maxBy queues.values (·.definition.id.value) = UInt64.ofNat labels.length := by
  obtain ⟨bound, reached⟩ := maxBy_spec queues.values (·.definition.id.value)
  have numbered : ∀ queue ∈ queues.values, ∃ place < labels.length,
      queue.definition.id = idAt place := by
    intro queue listed
    rw [Table.values, List.mem_map] at listed
    obtain ⟨⟨id, stored⟩, member, rfl⟩ := listed
    have found := (Table.mem_entries_iff _ _ _).mp member
    have key := (catalog.keys_perm few).mem_iff.mp (List.mem_map_of_mem member)
    obtain ⟨place, below, placed⟩ := List.mem_map.mp key
    exact ⟨place, List.mem_range.mp below, (catalog.keyed id stored found).trans placed.symm⟩
  apply UInt64.toNat_inj.mp
  rw [UInt64.toNat_ofNat', Nat.mod_eq_of_lt few]
  have atMost : (maxBy queues.values (·.definition.id.value)).toNat ≤ labels.length := by
    rcases reached with zero | ⟨queue, listed, same⟩
    · rw [zero]
      exact Nat.zero_le _
    · obtain ⟨place, below, placed⟩ := numbered queue listed
      rw [← same, placed, idAt_toNat (by omega)]
      exact below
  rcases Nat.eq_zero_or_pos labels.length with none | some
  · omega
  · -- the last label's queue attains the bound
    have last : labelAt labels (idAt (labels.length - 1)) = labels[labels.length - 1]? :=
      labelAt_idAt (by omega)
    rw [List.getElem?_eq_getElem (by omega)] at last
    obtain ⟨queue, found, _⟩ := catalog.found last
    have listed : queue ∈ queues.values :=
      List.mem_map.mpr ⟨_, (Table.mem_entries_iff _ _ _).mpr found, rfl⟩
    have below := UInt64.le_iff_toNat_le.mp (bound queue listed)
    rw [catalog.keyed _ _ found, idAt_toNat (by omega)] at below
    omega

theorem registered_rebuildIndexesLocked {J : Type} {labels : List Label} {fabric : Fabric J}
    (catalog : Catalog labels fabric.queues) (permitted : Permitted fabric.config labels) :
    Registered labels fabric.rebuildIndexesLocked.tables where
  catalog := catalog
  permitted := permitted
  next := by
    change maxBy fabric.queues.values (·.definition.id.value) + 1 = _
    rw [maxBy_catalog catalog permitted.few]
    exact (UInt64.ofNat_add _ 1).symm
  named label id := by
    let entry := fun queue : QueueRecord =>
      (nameKey queue.definition.resource queue.definition.name, queue.definition.id)
    have collected : ∀ names : Table Text QueueId, ∀ queues : List QueueRecord,
        queues.foldl (fun names queue =>
          names.insert (nameKey queue.definition.resource queue.definition.name)
            queue.definition.id) names = names.insertAll (queues.map entry) := by
      intro names queues
      rw [Table.insertAll, List.foldl_map]
    have keyed : (fabric.queues.values.map entry).map Prod.fst =
        (fabric.queues.values.map QueueRecord.label).map fun label =>
          nameKey label.resource label.name := by
      rw [List.map_map, List.map_map]
      rfl
    have distinct : ((fabric.queues.values.map entry).map Prod.fst).Nodup := by
      rw [keyed]
      refine List.Nodup.map_on ?_ ((catalog.perm permitted.few).nodup_iff.mpr permitted.distinct)
      intro first _ second _ same
      obtain ⟨resources, texts⟩ := nameKey_injective same
      cases first
      cases second
      exact congr (congrArg Label.mk resources) texts
    change (fabric.queues.values.foldl _ Table.empty).get? _ = some id ↔ _
    rw [collected, Table.get?_insertAll _ distinct, Table.get?_empty]
    constructor
    · rintro (listed | ⟨_, none⟩)
      · obtain ⟨queue, member, same⟩ := List.mem_map.mp listed
        obtain ⟨⟨key, stored⟩, held, rfl⟩ := List.mem_map.mp member
        have found := (Table.mem_entries_iff _ _ _).mp held
        obtain ⟨keys, ids⟩ := Prod.mk.injEq .. ▸ same
        obtain ⟨resources, texts⟩ := nameKey_injective keys
        have denoted := catalog.denotes found
        rw [← ids, catalog.keyed key stored found, denoted, QueueRecord.label, resources, texts]
      · cases none
    · intro denoted
      obtain ⟨queue, found, rfl⟩ := catalog.found denoted
      refine .inl (List.mem_map.mpr ⟨queue, ?_, ?_⟩)
      · exact List.mem_map.mpr ⟨_, (Table.mem_entries_iff _ _ _).mpr found, rfl⟩
      · exact Prod.ext rfl (catalog.keyed id queue found)

end Fabric

end QueueFabric
