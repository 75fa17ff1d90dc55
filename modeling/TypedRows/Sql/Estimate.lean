namespace TypedRows.Sql

-- Estimates of sizes and costs, as ten times the binary logarithm: products are sums, and
-- sums are rounded.

abbrev Estimate := Int

def estimateSmall (n : Nat) : Estimate :=
  match n % 8 with
  | 0 => 0
  | 1 => 2
  | 2 => 3
  | 3 => 5
  | 4 => 6
  | 5 => 7
  | 6 => 8
  | _ => 9

def estimate (n : Nat) : Estimate :=
  if n < 2 then 0
  else if n < 4 then estimateSmall (n * 4) + 10
  else if n < 8 then estimateSmall (n * 2) + 20
  else
    let shift := n.log2 - 3
    estimateSmall (n >>> shift) + 30 + 10 * shift

def estimateGain (distance : Int) : Int :=
  if 49 < distance then 0
  else if 31 < distance then 1
  else if distance ≤ 1 then 10
  else if distance ≤ 3 then 9
  else if distance ≤ 5 then 8
  else if distance ≤ 8 then 7
  else if distance ≤ 11 then 6
  else if distance ≤ 14 then 5
  else if distance ≤ 18 then 4
  else if distance ≤ 24 then 3
  else 2

def estimateSum (a b : Estimate) : Estimate := max a b + estimateGain (max a b - min a b)

-- The logarithm of a size, itself as an estimate.
def estimateLog (size : Estimate) : Estimate :=
  if size ≤ 10 then 0 else estimate size.toNat - 33

end TypedRows.Sql
