import QuerySemantics.Proofs.Value.Equality
import QuerySemantics.Proofs.Value.Known

/-!
# The order of types

Implicit conversion orders the known types: `null` below all others, `object` above them, the integers
below the other number types, and each host type below its bases. It is an order only if a name determines
its host type, for host types are compared by name: if two of one name listed other bases, then a type
could convert to a base of its base but not to that base.

## Main definitions

* `HostType.Hierarchy`: host types that hold their bases, and whose names determine them.
* `SqlType.Over`: known types, of which the host types belong to a hierarchy.
* `SqlType.Greatest`, `SqlType.Comparable`: the one of some types that all of them convert to, and types
  any two of which are comparable.

## Main results

* `HostType.Hierarchy.nodup`: no chain of bases in a hierarchy comes to a name twice.
* `SqlType.Over.trans`, `SqlType.Over.antisymm`: implicit conversion is an order.
* `SqlType.Over.common?_eq_some_iff`: the common type of two types is the greater one.
* `SqlType.conversion_order`: the order of types and its joins.
* `SqlType.Greatest.unique`, `SqlType.Greatest.append`: greatest types and how they are joined.
-/

set_option autoImplicit false

namespace QuerySemantics

/-! ## Hierarchies of host types -/

namespace HostType

/-- The host types behind a list of names are those at which the list goes on with their bases. -/
theorem mem_chain_iff {names : List String} {host : HostType} :
    host ∈ chain names ↔ ∃ front, names = front ++ host.name :: host.bases := by
  induction names with
  | nil => simp [chain]
  | cons name rest ih =>
    rw [chain, List.mem_cons, ih]
    constructor
    · rintro (rfl | ⟨front, rfl⟩)
      · exact ⟨[], rfl⟩
      · exact ⟨name :: front, rfl⟩
    · rintro ⟨front, hfront⟩
      cases front with
      | nil =>
        obtain ⟨rfl, rfl⟩ := List.cons.inj hfront
        exact .inl rfl
      | cons first front => exact .inr ⟨front, (List.cons.inj hfront).2⟩

/-- An ancestor has fewer bases. -/
theorem length_lt_of_mem_ancestors {host base : HostType} (h : base ∈ host.ancestors) :
    base.bases.length < host.bases.length := by
  obtain ⟨front, hfront⟩ := mem_chain_iff.1 h
  rw [hfront, List.length_append, List.length_cons]
  omega

/-- The ancestors of an ancestor are ancestors. -/
theorem ancestors_trans {host base root : HostType} (h : base ∈ host.ancestors)
    (h' : root ∈ base.ancestors) : root ∈ host.ancestors := by
  obtain ⟨front, hfront⟩ := mem_chain_iff.1 h
  obtain ⟨front', hfront'⟩ := mem_chain_iff.1 h'
  apply mem_chain_iff.2
  exact ⟨front ++ base.name :: front', by simp [hfront, hfront']⟩

/-- **Hierarchy**: host types that hold their bases, and whose names determine them. -/
structure Hierarchy (hosts : HostType → Prop) : Prop where
  holds_bases {host : HostType} : hosts host → ∀ base ∈ host.ancestors, hosts base
  determined {host other : HostType} : hosts host → hosts other → other.name = host.name →
    other = host

namespace Hierarchy

variable {hosts : HostType → Prop} {host other : HostType}

/-- What a host type derives from are its ancestors. -/
theorem derivesFrom_iff (h : Hierarchy hosts) (hhost : hosts host) (hother : hosts other) :
    host.derivesFrom other = true ↔ other ∈ host.ancestors := by
  constructor
  · intro hderives
    obtain ⟨base, hbase, hname⟩ := List.any_eq_true.1 hderives
    have hsame : base.name = other.name := eq_of_beq hname
    rwa [← h.determined hother (h.holds_bases hhost base hbase) hsame]
  · intro hmem
    exact List.any_eq_true.2 ⟨other, hmem, beq_self_eq_true other.name⟩

/-- **No chain of bases comes to a name twice**, the name that it starts with included. -/
theorem nodup (h : Hierarchy hosts) (hhost : hosts host) : (host.name :: host.bases).Nodup := by
  obtain ⟨name, bases⟩ := host
  induction bases generalizing name with
  | nil => exact List.nodup_cons.2 ⟨List.not_mem_nil, List.nodup_nil⟩
  | cons base rest ih =>
    refine List.nodup_cons.2 ⟨fun hmem => ?_, ?_⟩
    · -- an ancestor of the same name would be the host type itself, but has fewer bases
      obtain ⟨front, behind, hsplit⟩ := List.append_of_mem hmem
      have hancestor : (⟨name, behind⟩ : HostType) ∈ ancestors ⟨name, base :: rest⟩ :=
        mem_chain_iff.2 ⟨front, hsplit⟩
      have hsame := h.determined hhost (h.holds_bases hhost _ hancestor) rfl
      have hlt := length_lt_of_mem_ancestors hancestor
      rw [hsame] at hlt
      exact absurd hlt (Nat.lt_irrefl _)
    · exact ih base (h.holds_bases hhost _ (mem_chain_iff.2 ⟨[], rfl⟩))

end Hierarchy

end HostType

/-! ## Known types over a hierarchy -/

namespace SqlType

/-- **A type over a hierarchy**: it is known, and if it is a host type, then one of the hierarchy. -/
structure Over (hosts : HostType → Prop) (type : SqlType) : Prop where
  known : type.Known
  host : ∀ host ∈ type.host?, hosts host

/-- A known type is `null`, a primitive type or a host type. -/
theorem Known.cases {type : SqlType} (h : type.Known) :
    type = .null ∨ type ∈ primitives ∨ ∃ host, type = .host host := by
  cases type with
  | unknown => exact absurd rfl h
  | null => exact .inl rfl
  | host host => exact .inr (.inr ⟨host, rfl⟩)
  | _ => exact .inr (.inl (by simp [primitives]))

variable {type other : SqlType}

/-- Every type converts to itself. -/
theorem convertsTo_refl (type : SqlType) : type.convertsTo type = true := by
  simp [convertsTo, Conversion.classify, Conversion.isImplicit]

/-- `NULL` converts to everything. -/
theorem null_convertsTo (type : SqlType) : SqlType.null.convertsTo type = true := by
  cases type <;> rfl

/-- Everything converts to the top type. -/
theorem convertsTo_object (type : SqlType) : type.convertsTo .object = true := by
  cases type <;> rfl

/-- Only `null` converts to `null`. -/
theorem eq_null_of_convertsTo (hknown : type.Known) (h : type.convertsTo .null = true) :
    type = .null := by
  cases type with
  | unknown => exact absurd rfl hknown
  | null => rfl
  | _ => cases h

/-- Only `null` and other host types convert to a host type. -/
theorem exists_of_convertsTo_host (hknown : type.Known) {base : HostType}
    (h : type.convertsTo (.host base) = true) : type = .null ∨ ∃ host, type = .host host := by
  cases type with
  | unknown => exact absurd rfl hknown
  | null => exact .inl rfl
  | host host => exact .inr ⟨host, rfl⟩
  | _ => cases h

/-- A host type converts to the top type and to other host types only. -/
theorem exists_of_host_convertsTo (hknown : type.Known) {host : HostType}
    (h : (SqlType.host host).convertsTo type = true) : type = .object ∨ ∃ base, type = .host base := by
  cases type with
  | unknown => exact absurd rfl hknown
  | object => exact .inl rfl
  | host base => exact .inr ⟨base, rfl⟩
  | _ => cases h

/-- The top type converts to no other known type. -/
theorem eq_object_of_convertsTo (hknown : type.Known) (h : SqlType.object.convertsTo type = true) :
    type = .object := by
  cases type with
  | unknown => exact absurd rfl hknown
  | object => rfl
  | _ => cases h

/-- The conversion between two host types follows their names and their bases. -/
theorem classify_host_host (host base : HostType) :
    Conversion.classify (.host host) (.host base) =
      if host.name = base.name then .identity
      else if host.derivesFrom base then .implicit
      else if base.derivesFrom host then .explicit else .none := by
  show (if (host.name == base.name) = true then _ else _) = _
  simp only [beq_iff_eq]
  rfl

/-- A host type converts to itself and to what it derives from. -/
theorem host_convertsTo_host {host base : HostType} :
    (SqlType.host host).convertsTo (.host base) = true ↔
      host.name = base.name ∨ host.derivesFrom base = true := by
  rw [convertsTo, classify_host_host]
  split_ifs <;> simp [Conversion.isImplicit, *]

/-- **Conversions between host types** are there both ways or not at all. -/
theorem hosts_isPossible (host base : HostType) :
    (Conversion.classify (.host host) (.host base)).isPossible =
      (Conversion.classify (.host base) (.host host)).isPossible := by
  rw [classify_host_host, classify_host_host]
  by_cases hname : host.name = base.name
  · rw [if_pos hname, if_pos hname.symm]
  · rw [if_neg hname, if_neg (Ne.symm hname)]
    split_ifs <;> rfl

/-- Between a host type and a primitive type there are conversions only if that is the top type, and
then both ways. -/
theorem host_primitive_isPossible (host : HostType) (h : type ∈ primitives) :
    (Conversion.classify (.host host) type).isPossible =
      (Conversion.classify type (.host host)).isPossible := by
  cases type with
  | unknown | null | host _ => simp [primitives] at h
  | _ => rfl

/-! ### The table of primitive types -/

/-- Widening is transitive. -/
theorem primitives_trans : ∀ a ∈ primitives, ∀ b ∈ primitives, ∀ c ∈ primitives,
    a.convertsTo b = true → b.convertsTo c = true → a.convertsTo c = true := by
  decide +kernel

/-- Nothing widens both ways. -/
theorem primitives_antisymm : ∀ a ∈ primitives, ∀ b ∈ primitives,
    a.convertsTo b = true → b.convertsTo a = true → (a == b) = true := by
  decide +kernel

/-- There is a conversion both ways or none. -/
theorem primitives_isPossible : ∀ a ∈ primitives, ∀ b ∈ primitives,
    (Conversion.classify a b).isPossible = (Conversion.classify b a).isPossible := by
  decide +kernel

/-- The type of `NULL` is no primitive type. -/
theorem null_notMem_primitives : SqlType.null ∉ primitives := by
  simp [primitives]

/-- A type of the host is no primitive type. -/
theorem host_notMem_primitives (host : HostType) : SqlType.host host ∉ primitives := by
  simp [primitives]

/-- **Possible conversions** go both ways between known types other than `null`. -/
theorem isPossible_comm {a b : SqlType} (ha : a.Known) (hb : b.Known) (ha' : a ≠ .null)
    (hb' : b ≠ .null) :
    (Conversion.classify a b).isPossible = (Conversion.classify b a).isPossible := by
  rcases ha.cases with rfl | hmem | ⟨host, rfl⟩
  · exact absurd rfl ha'
  · rcases hb.cases with rfl | hmem' | ⟨base, rfl⟩
    · exact absurd rfl hb'
    · exact primitives_isPossible a hmem b hmem'
    · exact (host_primitive_isPossible base hmem).symm
  · rcases hb.cases with rfl | hmem' | ⟨base, rfl⟩
    · exact absurd rfl hb'
    · exact host_primitive_isPossible host hmem'
    · exact hosts_isPossible host base

/-! ## The order -/

namespace Over

variable {hosts : HostType → Prop} {a b c : SqlType}

/-- Equal types over a hierarchy are the same. -/
theorem eq_of_beq (h : HostType.Hierarchy hosts) (ha : a.Over hosts) (hb : b.Over hosts)
    (hequal : (a == b) = true) : a = b := by
  rcases beq_iff.1 hequal with rfl | ⟨name, bases, bases', rfl, rfl⟩
  · rfl
  · rw [h.determined (hb.host _ rfl) (ha.host _ rfl) rfl]

/-- One host type of a hierarchy converts to another if it is the same or one of its descendants. -/
theorem host_convertsTo_iff (h : HostType.Hierarchy hosts) {host base : HostType} (hhost : hosts host)
    (hbase : hosts base) : (SqlType.host host).convertsTo (.host base) = true ↔
      host = base ∨ base ∈ host.ancestors := by
  have hname : host.name = base.name ↔ host = base :=
    ⟨h.determined hbase hhost, fun heq => heq ▸ rfl⟩
  rw [host_convertsTo_host, h.derivesFrom_iff hhost hbase, hname]

/-- **Transitivity** of implicit conversion. -/
theorem trans (h : HostType.Hierarchy hosts) (ha : a.Over hosts) (hb : b.Over hosts)
    (hc : c.Over hosts) (hab : a.convertsTo b = true) (hbc : b.convertsTo c = true) :
    a.convertsTo c = true := by
  rcases hb.known.cases with rfl | hmem | ⟨base, rfl⟩
  · rw [eq_null_of_convertsTo ha.known hab]
    exact null_convertsTo c
  · rcases ha.known.cases with rfl | hmem' | ⟨host, rfl⟩
    · exact null_convertsTo c
    · rcases hc.known.cases with rfl | hmem'' | ⟨root, rfl⟩
      · rwa [eq_null_of_convertsTo hb.known hbc] at hab
      · exact primitives_trans a hmem' b hmem c hmem'' hab hbc
      · rcases exists_of_convertsTo_host hb.known hbc with rfl | ⟨base, rfl⟩
        · exact absurd hmem null_notMem_primitives
        · exact absurd hmem (host_notMem_primitives base)
    · -- of the primitive types, a host type converts to the top type only
      rcases exists_of_host_convertsTo hb.known hab with rfl | ⟨base, rfl⟩
      · rw [eq_object_of_convertsTo hc.known hbc]
        exact convertsTo_object (.host host)
      · exact absurd hmem (host_notMem_primitives base)
  · rcases exists_of_convertsTo_host ha.known hab with rfl | ⟨host, rfl⟩
    · exact null_convertsTo c
    · rcases exists_of_host_convertsTo hc.known hbc with rfl | ⟨root, rfl⟩
      · exact convertsTo_object (.host host)
      · have hhost : hosts host := ha.host host rfl
        have hbase : hosts base := hb.host base rfl
        have hroot : hosts root := hc.host root rfl
        apply (host_convertsTo_iff h hhost hroot).2
        rcases (host_convertsTo_iff h hhost hbase).1 hab with rfl | hbelow
        · exact (host_convertsTo_iff h hhost hroot).1 hbc
        · rcases (host_convertsTo_iff h hbase hroot).1 hbc with rfl | habove
          · exact .inr hbelow
          · exact .inr (HostType.ancestors_trans hbelow habove)

/-- **Antisymmetry** of implicit conversion. -/
theorem antisymm (h : HostType.Hierarchy hosts) (ha : a.Over hosts) (hb : b.Over hosts)
    (hab : a.convertsTo b = true) (hba : b.convertsTo a = true) : a = b := by
  rcases hb.known.cases with rfl | hmem | ⟨base, rfl⟩
  · exact eq_null_of_convertsTo ha.known hab
  · rcases ha.known.cases with rfl | hmem' | ⟨host, rfl⟩
    · exact (eq_null_of_convertsTo hb.known hba).symm
    · exact eq_of_beq h ha hb (primitives_antisymm a hmem' b hmem hab hba)
    · rcases exists_of_convertsTo_host hb.known hba with rfl | ⟨base, rfl⟩
      · exact absurd hmem null_notMem_primitives
      · exact absurd hmem (host_notMem_primitives base)
  · rcases exists_of_convertsTo_host ha.known hab with rfl | ⟨host, rfl⟩
    · exact (eq_null_of_convertsTo hb.known hba).symm
    · have hhost : hosts host := ha.host host rfl
      have hbase : hosts base := hb.host base rfl
      rcases (host_convertsTo_iff h hhost hbase).1 hab with rfl | hbelow
      · rfl
      · rcases (host_convertsTo_iff h hbase hhost).1 hba with rfl | habove
        · rfl
        · -- each would have fewer bases than the other
          have hlt := HostType.length_lt_of_mem_ancestors hbelow
          have hlt' := HostType.length_lt_of_mem_ancestors habove
          omega

/-- **The common type** of two types is the one that the other converts to. -/
theorem common?_eq_some_iff (h : HostType.Hierarchy hosts) (ha : a.Over hosts) (hb : b.Over hosts) :
    a.common? b = some c ↔
      (c = b ∧ a.convertsTo b = true) ∨ (c = a ∧ b.convertsTo a = true) := by
  unfold common?
  by_cases hab : a.convertsTo b = true
  · rw [if_pos hab]
    constructor
    · intro hc
      exact .inl ⟨(Option.some.inj hc).symm, hab⟩
    · rintro (⟨rfl, -⟩ | ⟨rfl, hba⟩)
      · rfl
      · rw [antisymm h ha hb hab hba]
  · rw [if_neg hab]
    by_cases hba : b.convertsTo a = true
    · rw [if_pos hba]
      constructor
      · intro hc
        exact .inr ⟨(Option.some.inj hc).symm, hba⟩
      · rintro (⟨-, hab'⟩ | ⟨rfl, -⟩)
        · exact absurd hab' hab
        · rfl
    · rw [if_neg hba]
      constructor
      · intro hc
        cases hc
      · rintro (⟨-, hab'⟩ | ⟨-, hba'⟩)
        · exact absurd hab' hab
        · exact absurd hba' hba

/-- Both types convert to their common type. -/
theorem convertsTo_common (h : HostType.Hierarchy hosts) (ha : a.Over hosts) (hb : b.Over hosts)
    (hc : a.common? b = some c) : a.convertsTo c = true ∧ b.convertsTo c = true := by
  rcases (common?_eq_some_iff h ha hb).1 hc with ⟨rfl, hab⟩ | ⟨rfl, hba⟩
  · exact ⟨hab, convertsTo_refl c⟩
  · exact ⟨convertsTo_refl c, hba⟩

/-- The order of two types does not matter for their common type. -/
theorem common?_comm (h : HostType.Hierarchy hosts) (ha : a.Over hosts) (hb : b.Over hosts) :
    a.common? b = b.common? a := by
  apply Option.ext
  intro c
  rw [common?_eq_some_iff h ha hb, common?_eq_some_iff h hb ha]
  exact Or.comm

end Over

/-- **There is a common type** if and only if one of the types converts to the other. -/
theorem isSome_common?_iff {a b : SqlType} :
    (a.common? b).isSome = true ↔ a.convertsTo b = true ∨ b.convertsTo a = true := by
  unfold common?
  split_ifs with hab hba <;> simp [*]

/-- **The order of types.** Over a hierarchy of host types, "converts by the identity or implicitly" is
a partial order on the known types, with `null` below and `object` above all of them. Two types have a
common type if and only if they are comparable; it is then the greater one, whichever comes first. And
other than for `null`, a conversion one way comes with one the other way.

That no chain of bases repeats a name need not be asked for: `HostType.Hierarchy.nodup`. -/
theorem conversion_order {hosts : HostType → Prop} (h : HostType.Hierarchy hosts) :
    (∀ a : SqlType, a.Over hosts →
      a.convertsTo a = true ∧ SqlType.null.convertsTo a = true ∧ a.convertsTo .object = true) ∧
    (∀ a b : SqlType, a.Over hosts → b.Over hosts →
      a.convertsTo b = true → b.convertsTo a = true → a = b) ∧
    (∀ a b c : SqlType, a.Over hosts → b.Over hosts → c.Over hosts →
      a.convertsTo b = true → b.convertsTo c = true → a.convertsTo c = true) ∧
    (∀ a b : SqlType, a.Over hosts → b.Over hosts →
      ((a.common? b).isSome = true ↔ a.convertsTo b = true ∨ b.convertsTo a = true) ∧
      (∀ c, a.common? b = some c →
        (c = a ∨ c = b) ∧ a.convertsTo c = true ∧ b.convertsTo c = true) ∧
      a.common? b = b.common? a ∧
      (a ≠ .null → b ≠ .null →
        (Conversion.classify a b).isPossible = (Conversion.classify b a).isPossible)) := by
  refine ⟨fun a _ => ?_, fun a b ha hb => ?_, fun a b c ha hb hc => ?_, fun a b ha hb => ?_⟩
  · exact ⟨convertsTo_refl a, null_convertsTo a, convertsTo_object a⟩
  · exact Over.antisymm h ha hb
  · exact Over.trans h ha hb hc
  · refine ⟨isSome_common?_iff, fun c hc => ?_, Over.common?_comm h ha hb, ?_⟩
    · exact ⟨common?_eq hc, Over.convertsTo_common h ha hb hc⟩
    · exact isPossible_comm ha.known hb.known

/-- A hierarchy of host types: shapes, circles and unit circles. -/
def shapes : List HostType :=
  [⟨"Shape", []⟩, ⟨"Circle", ["Shape"]⟩, ⟨"UnitCircle", ["Circle", "Shape"]⟩]

/-- The bases of these types are listed, and no two types are bases of each other. -/
theorem shapes_hierarchy : HostType.Hierarchy (· ∈ shapes) where
  holds_bases {host} hhost base hbase := by
    simp only [shapes, List.mem_cons, List.not_mem_nil, or_false] at hhost ⊢
    rcases hhost with rfl | rfl | rfl
    · cases hbase
    · exact .inl (List.mem_singleton.1 hbase)
    · rcases List.mem_cons.1 hbase with rfl | hbase
      · exact .inr (.inl rfl)
      · exact .inl (List.mem_singleton.1 hbase)
  determined {host other} hhost hother hname := by
    simp only [shapes, List.mem_cons, List.not_mem_nil, or_false] at hhost hother
    rcases hhost with rfl | rfl | rfl <;> rcases hother with rfl | rfl | rfl <;> simp_all

/-- A unit circle is a shape, because a circle is. -/
theorem conversion_order_shapes :
    (SqlType.host ⟨"UnitCircle", ["Circle", "Shape"]⟩).convertsTo (.host ⟨"Shape", []⟩) = true := by
  have hover : ∀ host ∈ shapes, (SqlType.host host).Over (· ∈ shapes) := by
    intro host hhost
    constructor
    · intro hunknown
      cases hunknown
    · intro other hother
      exact Option.some.inj hother ▸ hhost
  obtain ⟨-, -, htrans, -⟩ := conversion_order shapes_hierarchy
  apply htrans _ (.host ⟨"Circle", ["Shape"]⟩) _
  · exact hover _ (by simp [shapes])
  · exact hover _ (by simp [shapes])
  · exact hover _ (by simp [shapes])
  · decide
  · decide

/-! ## Greatest types -/

/-- **The greatest of some types**: the one of them that all of them convert to. -/
def Greatest (types : List SqlType) (type : SqlType) : Prop :=
  type ∈ types ∧ ∀ other ∈ types, other.convertsTo type = true

/-- Types any two of which are comparable. -/
def Comparable (types : List SqlType) : Prop :=
  ∀ a ∈ types, ∀ b ∈ types, a.convertsTo b = true ∨ b.convertsTo a = true

/-- Of one type, it is the greatest. -/
theorem greatest_singleton (type : SqlType) : Greatest [type] type := by
  constructor
  · exact List.mem_singleton_self type
  · intro other hother
    rw [List.mem_singleton.1 hother]
    exact convertsTo_refl type

namespace Greatest

variable {hosts : HostType → Prop} {types types' : List SqlType} {type other : SqlType}

/-- **At most one type is greatest.** -/
theorem unique (h : HostType.Hierarchy hosts) (hover : ∀ type ∈ types, type.Over hosts)
    (htype : Greatest types type) (hother : Greatest types other) : type = other :=
  Over.antisymm h (hover type htype.1) (hover other hother.1) (hother.2 type htype.1)
    (htype.2 other hother.1)

/-- **The greater of two greatest types** is the greatest of all. -/
theorem append (h : HostType.Hierarchy hosts) (hover : ∀ type ∈ types, type.Over hosts)
    (hover' : ∀ type ∈ types', type.Over hosts) (htype : Greatest types type)
    (hother : Greatest types' other) {common : SqlType} (hcommon : type.common? other = some common) :
    Greatest (types ++ types') common := by
  have htop : type.Over hosts := hover type htype.1
  have htop' : other.Over hosts := hover' other hother.1
  have hover'' : common.Over hosts := by
    rcases common?_eq hcommon with rfl | rfl
    · exact htop
    · exact htop'
  obtain ⟨hleft, hright⟩ := Over.convertsTo_common h htop htop' hcommon
  constructor
  · rcases common?_eq hcommon with rfl | rfl
    · exact List.mem_append_left _ htype.1
    · exact List.mem_append_right _ hother.1
  · intro one hone
    rcases List.mem_append.1 hone with hone | hone
    · exact Over.trans h (hover one hone) htop hover'' (htype.2 one hone) hleft
    · exact Over.trans h (hover' one hone) htop' hover'' (hother.2 one hone) hright

/-- The order of the types does not matter. -/
theorem perm (hperm : types'.Perm types) (htype : Greatest types type) : Greatest types' type := by
  constructor
  · exact hperm.mem_iff.2 htype.1
  · intro other hother
    exact htype.2 other (hperm.mem_iff.1 hother)

end Greatest

end SqlType

end QuerySemantics
