/-
Spans of time, in milliseconds. One pause lasts at most thirty years of 365 days; one asked
for longer than that ends then. Budgets and points in time are not bounded so.
-/
namespace ExampleProbes.Time

def longest : Nat := 30 * 365 * 24 * 60 * 60 * 1000

/-- How long a pause lasts that is asked for. -/
def span (asked : Nat) : Nat := min asked longest

end ExampleProbes.Time
