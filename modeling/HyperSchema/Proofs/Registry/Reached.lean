import HyperSchema.Proofs.Registry.Transparent

namespace HyperSchema.Registry
open RegistryM

/-- Registries that start with some schemas and without anything remembered, after any requests,
and the schemas they then keep. -/
inductive Reached (c : Conventions) : Store → Registry → Prop
  | start (store : Store) (log : List Event) : Reached c store { conventions := c, store, log }
  | step {store : Store} {r : Registry} (h : Reached c store r) (q : Request) :
      Reached c (q.storeAfter store) ((answer q).exec r).2

variable {c : Conventions} {store : Store} {r : Registry} {id : SchemaId} {p : Prototype}

theorem Reached.coherent (h : Reached c store r) : Coherent c store r := by
  induction h with
  | start store log => exact .empty c store log
  | step h q ih => exact (answer_eq_uncached ih q).2

namespace Coherent

variable (h : Coherent c store r) (hp : (Prototype.compile c store id).outcome = .ok p)
include h hp

theorem searchPlan_eq {s : CollectionSlot}
    (hs : Prototype.slotNamed? p.slots s.name = some (.collection s)) :
    ((searchPlan s).exec r).1 = Uncached.searchPlan c store s :=
  (answers_searchPlan (prototype_of_owner hp hs) hs r h).1

theorem buildSearch_eq {s : CollectionSlot}
    (hs : Prototype.slotNamed? p.slots s.name = some (.collection s)) (referrer : Model) :
    ((buildSearch s referrer).exec r).1 = Uncached.buildSearch c store s referrer :=
  (answers_buildSearch referrer (prototype_of_owner hp hs) hs r h).1

theorem linkBindings_eq {l : LinkSlot}
    (hl : Prototype.slotNamed? p.slots l.name = some (.link l)) :
    ((linkBindings l).exec r).1 = Uncached.linkBindings c store l :=
  (answers_linkBindings (prototype_of_owner hp hl) hl r h).1

end Coherent

end HyperSchema.Registry
