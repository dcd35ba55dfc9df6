/-!
# What a run takes from its host

Besides files a run needs three things that are not its own: the number of
processors, something that matches names, and threads for its workers. The last
two can be refused, a marker that is too long to be matched and threads that the
system has no more of, and then the run ends with what is said against it. When
that happens is up to the host, so the host is a parameter.
-/

namespace GoldenFiles

/-- What a run asks of the machine that it is on. One that refuses nothing is the
default. -/
structure Host where
  /-- The processors that a run may use; one, if their number is unknown. -/
  processors : Nat := 1
  /-- What is said against matching names that begin with a marker. -/
  patternFault? : String → Option String := fun _ => none
  /-- What is said against a pool of so many workers, outermost first. -/
  poolFault? : Nat → Option (List String) := fun _ => none

/-- What is said against so many workers for so many cases. A pool is only asked
for if cases can run at the same time. -/
def Host.refusal? (host : Host) (workers cases : Nat) : Option (List String) :=
  if workers ≤ 1 ∨ cases ≤ 1 then none else host.poolFault? workers

end GoldenFiles
