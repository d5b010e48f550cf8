import ClusterCost.Decimal.Binary
import ClusterCost.Instant

/-!
# Billing windows

A window is billed by the minute: its length is rounded up to whole minutes and then given in hours. The length is taken
exactly, in nanoseconds, and becomes a float before the division. A window that ends before it starts is billed with
the opposite sign.
-/
namespace ClusterCost.Billing

structure Window where
  start : Instant
  finish : Instant
  deriving DecidableEq, Repr

namespace Window

def nanosPerMinute : Float := 60000000000.0

/-- The length in nanoseconds, negative if the window ends before it starts. -/
def nanos (w : Window) : Int :=
  w.finish.toNanos - w.start.toNanos

def minutes (w : Window) : Float :=
  Decimal.ceil (Float.ofInt w.nanos / nanosPerMinute)

def hours (w : Window) : Float :=
  w.minutes / 60.0

end Window

end ClusterCost.Billing
