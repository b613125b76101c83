import ClusterLifecycle.Proofs.StatusProvenance

/-!
What a task says at its end. An operation that succeeds prints one line about the record that it has
kept; a pass that succeeds prints one about the record that it has kept, or found and left alone.
-/

namespace ClusterLifecycle

open Program Host StateDirectory

namespace Plan

variable {directory : String} {events : List Plan.Event} {lower : List Host.Event} {record : Cluster}

end Plan

namespace CommandLine

variable {home : Place} {before after : Texts} {invocation : Invocation} {record : Cluster} {uuid : Uuid}

theorem Invocation.Carries.stored (carries : Invocation.Carries home before invocation after)
    (wrote : invocation.Wrote record) : after (recordPlace home record.uuid) = some record.stored := by
  rcases carries.cases with ⟨quiet, -⟩ | ⟨written, only, stored, -, -⟩
  · exact absurd wrote (quiet record)
  · rw [(only record).1 wrote]
    exact stored

end CommandLine

end ClusterLifecycle
