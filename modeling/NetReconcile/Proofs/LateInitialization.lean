import Mathlib.Data.List.Pairwise
import NetReconcile.Proofs.Kinds

/-!
# Late initialization fills unset optional fields

Late initialization adopts into the desired parameters what the provider chose for the
fields its owner left unset. Seen field by field it is a closure: each optional field it
may fill is a lens into an `Option` (`OptionalField`), a record offers a value for it (a
text only when it is not empty, a flag or a number always), and adopting fills the field
when it is unset and the record offers something.

For a list of such fields that behave as separate parts of the parameters (`Lawful`),
late initialization over their adoptions

* leaves everything outside the fields as it was, and a field that was set keeps its value;
* fills an unset field with what the record offers;
* reports, in order, exactly the fields that went from unset to set, so it reports
  nothing exactly when it changes nothing;
* adopts nothing when run again on what it gave.

Each kind of the catalog adopts over such a list of its optional fields, and adopting keeps
the drift verdict of every kind.
-/

namespace NetReconcile

namespace Resource

/-- An optional field of declared parameters that late initialization may fill: the name it
is reported under, how it is read and written, and what a provider's record offers to fill
it with. -/
structure OptionalField (P R : Type) where
  name : String
  Val : Type
  get : P → Option Val
  set : P → Option Val → P
  offered : R → Option Val

namespace OptionalField

variable {P R α : Type}

/-- A text field: a record offers its text only when the text is not empty. -/
def text (name : String) (get : P → Option String) (set : P → Option String → P)
    (observed : R → String) : OptionalField P R :=
  ⟨name, String, get, set, fun r => if observed r = "" then none else some (observed r)⟩

/-- A flag or a number: a record always offers its value. -/
def value (name : String) (get : P → Option α) (set : P → Option α → P) (observed : R → α) :
    OptionalField P R :=
  ⟨name, α, get, set, fun r => some (observed r)⟩

/-- Filling the field from a record: an unset field takes what the record offers. -/
def adoption (f : OptionalField P R) : Adoption P R :=
  ⟨f.name, fun p r => match f.get p, f.offered r with
    | none, some v => some (f.set p (some v))
    | _, _ => none⟩

/-- The parameters with every field of a list unset. -/
def clear (fs : List (OptionalField P R)) (p : P) : P :=
  fs.foldl (fun q f => f.set q none) p

/-- Two fields are separate parts of the parameters: writing either leaves the other as it
reads, and writes to the two commute. -/
def Independent (f g : OptionalField P R) : Prop :=
  (∀ p o, g.get (f.set p o) = g.get p) ∧ (∀ p o, f.get (g.set p o) = f.get p) ∧
    ∀ p o o', g.set (f.set p o) o' = f.set (g.set p o') o

/-- Fields that behave as separate parts of the parameters: each reads what was last
written to it, a second write replaces the first, and fields at different places in the
list are independent. -/
structure Lawful (fs : List (OptionalField P R)) : Prop where
  get_set : ∀ f ∈ fs, ∀ p o, f.get (f.set p o) = o
  set_set : ∀ f ∈ fs, ∀ p o o', f.set (f.set p o) o' = f.set p o'
  independent : fs.Pairwise Independent

/-! ## Adopting one field -/

@[simp] theorem adoption_field (f : OptionalField P R) : f.adoption.field = f.name := rfl

/-- A field is filled exactly when it is unset and the record offers a value. -/
theorem adoption_adopt_eq_some {f : OptionalField P R} {p p' : P} {r : R} :
    f.adoption.adopt p r = some p' ↔ f.get p = none ∧ ∃ v, f.offered r = some v ∧ f.set p (some v) = p' := by
  simp only [adoption]
  split <;> simp_all

/-- A field is left alone exactly when, with what the record offers as a fallback, it
reads as it did. -/
theorem adoption_adopt_eq_none {f : OptionalField P R} {p : P} {r : R} :
    f.adoption.adopt p r = none ↔ (f.get p).or (f.offered r) = f.get p := by
  simp only [adoption]
  cases f.get p <;> cases f.offered r <;> simp

theorem text_adoption (name : String) (get : P → Option String) (set : P → Option String → P)
    (observed : R → String) :
    (text name get set observed).adoption = Adoption.text name get (fun p v => set p (some v)) observed := by
  simp only [adoption, text, Adoption.text, Adoption.mk.injEq, true_and]
  funext p r
  cases get p <;> by_cases h : observed r = "" <;> simp [h]

theorem value_adoption (name : String) (get : P → Option α) (set : P → Option α → P)
    (observed : R → α) :
    (value name get set observed).adoption = Adoption.value name get (fun p v => set p (some v)) observed := by
  simp only [adoption, value, Adoption.value, Adoption.mk.injEq, true_and]
  funext p r
  cases get p <;> simp

/-! ## Late initialization over lawful fields -/

variable {fs : List (OptionalField P R)}

theorem Lawful.tail {f : OptionalField P R} (hl : Lawful (f :: fs)) : Lawful fs where
  get_set g hg := hl.get_set g (List.mem_cons_of_mem f hg)
  set_set g hg := hl.set_set g (List.mem_cons_of_mem f hg)
  independent := (List.pairwise_cons.mp hl.independent).2

/-- A value that no write to a field of `fs` changes is the same after late
initialization over their adoptions. -/
theorem lateInit_invariant_of_set {β : Type} (F : P → β)
    (h : ∀ f ∈ fs, ∀ q v, F (f.set q (some v)) = F q) (p : P) (r : R) :
    F (lateInit (fs.map adoption) p r).1 = F p := by
  refine lateInit_invariant F ?_ p
  intro a ha q q' hq
  obtain ⟨f, hf, rfl⟩ := List.mem_map.mp ha
  obtain ⟨-, v, -, rfl⟩ := adoption_adopt_eq_some.mp hq
  exact h f hf q v

/-- After late initialization a field holds the value it was set to, or else what the
record offers. -/
theorem Lawful.get_lateInit (hl : Lawful fs) (p : P) (r : R) :
    ∀ f ∈ fs, f.get (lateInit (fs.map adoption) p r).1 = (f.get p).or (f.offered r) := by
  induction fs generalizing p with
  | nil => simp
  | cons g gs ih =>
    have hind : ∀ f ∈ gs, Independent g f := (List.pairwise_cons.mp hl.independent).1
    have hkeep : ∀ q, g.get (lateInit (gs.map adoption) q r).1 = g.get q := fun q =>
      lateInit_invariant_of_set g.get (fun f hf q v => (hind f hf).2.1 q (some v)) q r
    intro f hf
    rw [List.map_cons, lateInit_cons]
    cases hfire : g.adoption.adopt p r with
    | none =>
      dsimp only
      rcases List.mem_cons.mp hf with rfl | hf
      · rw [hkeep, adoption_adopt_eq_none.mp hfire]
      · exact ih hl.tail p f hf
    | some p' =>
      obtain ⟨hnone, v, hv, rfl⟩ := adoption_adopt_eq_some.mp hfire
      dsimp only
      rcases List.mem_cons.mp hf with rfl | hf
      · rw [hkeep, hl.get_set f List.mem_cons_self, hnone, hv]
        rfl
      · rw [ih hl.tail _ f hf, (hind f hf).1]

/-- Late initialization reports, in order, the fields that were unset and offered a value
by the record. -/
theorem Lawful.lateInit_report (hl : Lawful fs) (p : P) (r : R) :
    (lateInit (fs.map adoption) p r).2 =
      (fs.filter fun f => (f.get p).isNone && (f.offered r).isSome).map (·.name) := by
  induction fs generalizing p with
  | nil => simp
  | cons g gs ih =>
    have hind : ∀ f ∈ gs, Independent g f := (List.pairwise_cons.mp hl.independent).1
    rw [List.map_cons, lateInit_cons]
    cases hfire : g.adoption.adopt p r with
    | none =>
      have hg : ((g.get p).isNone && (g.offered r).isSome) = false := by
        have h := adoption_adopt_eq_none.mp hfire
        cases hp : g.get p <;> cases ho : g.offered r <;> simp_all
      dsimp only
      rw [List.filter_cons_of_neg (by simp [hg]), ih hl.tail p]
    | some p' =>
      obtain ⟨hnone, v, hv, rfl⟩ := adoption_adopt_eq_some.mp hfire
      have hsame : (gs.filter fun f => (f.get (g.set p (some v))).isNone && (f.offered r).isSome) =
          gs.filter fun f => (f.get p).isNone && (f.offered r).isSome :=
        List.filter_congr fun f hf => by rw [(hind f hf).1]
      dsimp only
      rw [List.filter_cons_of_pos (by simp [hnone, hv]), ih hl.tail _, hsame]
      rfl

/-- Setting a field of the list is undone by clearing them all. -/
theorem Lawful.clear_set (hl : Lawful fs) {f : OptionalField P R} (hf : f ∈ fs) (p : P)
    (o : Option f.Val) : clear fs (f.set p o) = clear fs p := by
  induction fs generalizing p with
  | nil => simp at hf
  | cons g gs ih =>
    simp only [clear, List.foldl_cons]
    rcases List.mem_cons.mp hf with rfl | hf
    · rw [hl.set_set f List.mem_cons_self]
    · rw [← (List.pairwise_cons.mp hl.independent).1 f hf |>.2.2 p none o]
      exact ih hl.tail hf _

/-- Late initialization changes nothing outside the fields it fills. -/
theorem Lawful.clear_lateInit (hl : Lawful fs) (p : P) (r : R) :
    clear fs (lateInit (fs.map adoption) p r).1 = clear fs p :=
  lateInit_invariant_of_set (clear fs) (fun _ hf q v => hl.clear_set hf q (some v)) p r

/-- After late initialization no field is filled again. -/
theorem Lawful.settled_lateInit (hl : Lawful fs) (p : P) (r : R) :
    ∀ a ∈ fs.map adoption, a.adopt (lateInit (fs.map adoption) p r).1 r = none := by
  intro a ha
  obtain ⟨f, hf, rfl⟩ := List.mem_map.mp ha
  rw [adoption_adopt_eq_none, hl.get_lateInit p r f hf]
  cases f.get p <;> cases f.offered r <;> rfl

end OptionalField

/-! ## Kinds that fill their optional fields -/

open OptionalField

/-- Late initialization of a kind fills the optional fields `fs` and nothing else. The
kind adopts the fields of `fs`, in their order, and for all desired parameters `d` and
records `r`, where late initialization gives `d₁` and reports the fields `L`:

* outside the fields of `fs` the parameters are unchanged;
* a field of `fs` that was set keeps its value, and an unset one takes what the record
  offers: a text only when it is not empty, a flag or a number always;
* `L` names, in the order of `fs`, exactly the fields that went from unset to set, so `L`
  is empty exactly when `d₁ = d`;
* late initialization of `d₁` from `r` reports nothing and changes nothing. -/
def Kind.FillsOnly (k : Kind) (fs : List (OptionalField k.Params k.Rec)) : Prop :=
  k.adoptions.map (·.field) = fs.map (·.name) ∧
  ∀ d r, clear fs (k.lateInit d r).1 = clear fs d ∧
    (∀ f ∈ fs, f.get (k.lateInit d r).1 = (f.get d).or (f.offered r)) ∧
    (k.lateInit d r).2 =
      (fs.filter fun f => (f.get d).isNone && (f.get (k.lateInit d r).1).isSome).map (·.name) ∧
    ((k.lateInit d r).2 = [] ↔ (k.lateInit d r).1 = d) ∧
    k.lateInit (k.lateInit d r).1 r = ((k.lateInit d r).1, [])

/-- A kind whose adoptions are those of a lawful list of optional fields fills exactly
those fields. -/
theorem Kind.fillsOnly_of_adoptions {k : Kind} {fs : List (OptionalField k.Params k.Rec)}
    (hl : OptionalField.Lawful fs) (ha : k.adoptions = fs.map adoption) : k.FillsOnly fs := by
  refine ⟨by rw [ha, List.map_map]; rfl, fun d r => ?_⟩
  have hlate : ∀ q, k.lateInit q r = Resource.lateInit (fs.map adoption) q r := by
    intro q
    rw [Kind.lateInit, ha]
  have hget := hl.get_lateInit d r
  have hwent : (fs.filter fun f => (f.get d).isNone && (f.get (k.lateInit d r).1).isSome) =
      fs.filter fun f => (f.get d).isNone && (f.offered r).isSome := by
    refine List.filter_congr fun f hf => ?_
    rw [hlate, hget f hf]
    cases f.get d <;> rfl
  have hreport : (k.lateInit d r).2 =
      (fs.filter fun f => (f.get d).isNone && (f.get (k.lateInit d r).1).isSome).map (·.name) := by
    rw [hwent, hlate]
    exact hl.lateInit_report d r
  refine ⟨by rw [hlate]; exact hl.clear_lateInit d r, by rw [hlate]; exact hget, hreport, ?_, ?_⟩
  · constructor
    · intro hnil
      rw [hlate] at hnil ⊢
      rw [lateInit_of_settled ((lateInit_snd_eq_nil_iff _ d r).mp hnil)]
    · intro hsame
      rw [hreport, hsame]
      simp
  · rw [hlate, hlate]
    exact lateInit_of_settled (hl.settled_lateInit d r)

end Resource

open Resource OptionalField

/-! ## The seven kinds

The optional fields each kind fills, in the order it adopts them. A subnet's DHCP flag and
a rule's priority are values, adopted even when false or zero; every other field is a text.
The elastic IP's address sits inside its public address. -/

namespace Vpc

/-- The optional fields of a VPC that late initialization fills. -/
def optionalFields : List (OptionalField Params Record) :=
  [.text "description" (·.description) (fun p o => { p with description := o }) (·.description)]

theorem optionalFields_lawful : OptionalField.Lawful optionalFields where
  get_set := by simp [optionalFields, OptionalField.text]
  set_set := by simp [optionalFields, OptionalField.text]
  independent := by simp [optionalFields]

theorem kind_fillsOnly : kind.FillsOnly optionalFields :=
  Kind.fillsOnly_of_adoptions optionalFields_lawful (by simp [kind, optionalFields, text_adoption])

end Vpc

namespace Subnet

/-- The optional fields of a subnet that late initialization fills. -/
def optionalFields : List (OptionalField Params Record) :=
  [.value "dhcpEnable" (·.dhcpEnable) (fun p o => { p with dhcpEnable := o }) (·.dhcpEnable),
   .text "primaryDns" (·.primaryDns) (fun p o => { p with primaryDns := o }) (·.primaryDns),
   .text "secondaryDns" (·.secondaryDns) (fun p o => { p with secondaryDns := o }) (·.secondaryDns),
   .text "description" (·.description) (fun p o => { p with description := o }) (·.description)]

theorem optionalFields_lawful : OptionalField.Lawful optionalFields where
  get_set := by simp [optionalFields, OptionalField.text, OptionalField.value]
  set_set := by simp [optionalFields, OptionalField.text, OptionalField.value]
  independent := by simp [optionalFields, OptionalField.Independent, OptionalField.text, OptionalField.value]

theorem kind_fillsOnly : kind.FillsOnly optionalFields :=
  Kind.fillsOnly_of_adoptions optionalFields_lawful
    (by simp [kind, optionalFields, text_adoption, value_adoption])

end Subnet

namespace SecurityGroup

/-- The optional fields of a security group that late initialization fills. -/
def optionalFields : List (OptionalField Params Record) :=
  [.text "description" (·.description) (fun p o => { p with description := o }) (·.description)]

theorem optionalFields_lawful : OptionalField.Lawful optionalFields where
  get_set := by simp [optionalFields, OptionalField.text]
  set_set := by simp [optionalFields, OptionalField.text]
  independent := by simp [optionalFields]

theorem kind_fillsOnly : kind.FillsOnly optionalFields :=
  Kind.fillsOnly_of_adoptions optionalFields_lawful (by simp [kind, optionalFields, text_adoption])

end SecurityGroup

namespace SecurityGroupRule

/-- The optional fields of a security group rule that late initialization fills. -/
def optionalFields : List (OptionalField Params Record) :=
  [.text "description" (·.description) (fun p o => { p with description := o }) (·.description),
   .text "ethertype" (·.ethertype) (fun p o => { p with ethertype := o }) (·.ethertype),
   .text "protocol" (·.protocol) (fun p o => { p with protocol := o }) (·.protocol),
   .text "multiport" (·.multiport) (fun p o => { p with multiport := o }) (·.multiport),
   .text "remoteIpPrefix" (·.remoteIpPrefix) (fun p o => { p with remoteIpPrefix := o })
     (·.remoteIpPrefix),
   .text "remoteGroupId" (·.remoteGroupId) (fun p o => { p with remoteGroupId := o })
     (·.remoteGroupId),
   .text "remoteAddressGroupId" (·.remoteAddressGroupId)
     (fun p o => { p with remoteAddressGroupId := o }) (·.remoteAddressGroupId),
   .text "action" (·.action) (fun p o => { p with action := o }) (·.action),
   .value "priority" (·.priority) (fun p o => { p with priority := o }) (·.priority)]

theorem optionalFields_lawful : OptionalField.Lawful optionalFields where
  get_set := by simp [optionalFields, OptionalField.text, OptionalField.value]
  set_set := by simp [optionalFields, OptionalField.text, OptionalField.value]
  independent := by simp [optionalFields, OptionalField.Independent, OptionalField.text, OptionalField.value]

theorem kind_fillsOnly : kind.FillsOnly optionalFields :=
  Kind.fillsOnly_of_adoptions optionalFields_lawful
    (by simp [kind, optionalFields, text_adoption, value_adoption])

end SecurityGroupRule

namespace NatGateway

/-- The optional fields of a NAT gateway that late initialization fills. -/
def optionalFields : List (OptionalField Params Record) :=
  [.text "description" (·.description) (fun p o => { p with description := o }) (·.description)]

theorem optionalFields_lawful : OptionalField.Lawful optionalFields where
  get_set := by simp [optionalFields, OptionalField.text]
  set_set := by simp [optionalFields, OptionalField.text]
  independent := by simp [optionalFields]

theorem kind_fillsOnly : kind.FillsOnly optionalFields :=
  Kind.fillsOnly_of_adoptions optionalFields_lawful (by simp [kind, optionalFields, text_adoption])

end NatGateway

namespace ElasticIp

/-- The optional fields of an elastic IP that late initialization fills: the address of
its public address. -/
def optionalFields : List (OptionalField Params Record) :=
  [.text "ipAddress" (·.publicIp.ipAddress)
     (fun p o => { p with publicIp := { p.publicIp with ipAddress := o } }) (·.publicAddress)]

theorem optionalFields_lawful : OptionalField.Lawful optionalFields where
  get_set := by simp [optionalFields, OptionalField.text]
  set_set := by simp [optionalFields, OptionalField.text]
  independent := by simp [optionalFields]

theorem kind_fillsOnly : kind.FillsOnly optionalFields :=
  Kind.fillsOnly_of_adoptions optionalFields_lawful (by simp [kind, optionalFields, text_adoption])

end ElasticIp

namespace SnatRule

/-- The optional fields of an SNAT rule that late initialization fills; the subnet is
adopted from the record's network. -/
def optionalFields : List (OptionalField Params Record) :=
  [.text "subnetId" (·.subnetId) (fun p o => { p with subnetId := o }) (·.networkId),
   .text "cidr" (·.cidr) (fun p o => { p with cidr := o }) (·.cidr)]

theorem optionalFields_lawful : OptionalField.Lawful optionalFields where
  get_set := by simp [optionalFields, OptionalField.text]
  set_set := by simp [optionalFields, OptionalField.text]
  independent := by simp [optionalFields, OptionalField.Independent, OptionalField.text]

theorem kind_fillsOnly : kind.FillsOnly optionalFields :=
  Kind.fillsOnly_of_adoptions optionalFields_lawful (by simp [kind, optionalFields, text_adoption])

end SnatRule

/-! ## Late initialization of every kind -/

/-- Late initialization is a closure over the optional fields of every kind of the catalog:
it changes nothing outside the fields it fills and keeps every field that was set; it fills
an unset field with what the record offers, a text only when it is not empty and a
subnet's DHCP flag or a rule's priority always; it reports, in order, exactly the fields
that went from unset to set, so it reports nothing exactly when it changes nothing; and
it adopts nothing when run again on what it gave. -/
theorem lateInit_fills_unset_fields :
    Vpc.kind.FillsOnly Vpc.optionalFields ∧ Subnet.kind.FillsOnly Subnet.optionalFields ∧
      SecurityGroup.kind.FillsOnly SecurityGroup.optionalFields ∧
      SecurityGroupRule.kind.FillsOnly SecurityGroupRule.optionalFields ∧
      NatGateway.kind.FillsOnly NatGateway.optionalFields ∧
      ElasticIp.kind.FillsOnly ElasticIp.optionalFields ∧
      SnatRule.kind.FillsOnly SnatRule.optionalFields :=
  ⟨Vpc.kind_fillsOnly, Subnet.kind_fillsOnly, SecurityGroup.kind_fillsOnly,
    SecurityGroupRule.kind_fillsOnly, NatGateway.kind_fillsOnly, ElasticIp.kind_fillsOnly,
    SnatRule.kind_fillsOnly⟩

/-- A subnet adopts its DHCP flag although it is off, and no empty DNS server. -/
example :
    Subnet.kind.lateInit ⟨"app", "192.168.1.0/24", "192.168.1.1", "vpc-1", none, none, none, none, none⟩
        ⟨"subnet-1", "app", "192.168.1.0/24", "192.168.1.1", "vpc-1", false, "100.125.4.25", "",
          "eu-de-01", "", "ACTIVE"⟩ =
      (⟨"app", "192.168.1.0/24", "192.168.1.1", "vpc-1", some false, some "100.125.4.25", none, none,
          none⟩, ["dhcpEnable", "primaryDns"]) := by
  rfl

variable {k : Kind}

/-- Late initialization never changes the drift verdict: for every kind of the catalog,
the fields that drift from a record are the same before and after adopting from it. -/
theorem lateInit_keeps_drift (hk : k ∈ catalog) (d : k.Params) (r : k.Rec) :
    k.drift (k.lateInit d r).1 r = k.drift d r :=
  (catalog_lawful hk).drift_lateInit d r

theorem lateInit_keeps_drift_of_renamed_vpc :
    Vpc.kind ∈ catalog ∧
      Vpc.kind.drift (Vpc.kind.lateInit ⟨"web", "10.0.0.0/16", none⟩
          ⟨"vpc-1", "old", "10.0.0.0/16", "from provider", "OK"⟩).1
          ⟨"vpc-1", "old", "10.0.0.0/16", "from provider", "OK"⟩ =
        Vpc.kind.drift ⟨"web", "10.0.0.0/16", none⟩ ⟨"vpc-1", "old", "10.0.0.0/16", "from provider", "OK"⟩ :=
  ⟨by simp [catalog], lateInit_keeps_drift (by simp [catalog]) _ _⟩

end NetReconcile
