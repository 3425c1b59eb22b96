import Screening.Store

/-!
# Demonstration data

Five companies with values as of 1 January 2024, a portfolio of a client that holds all of them, a
criteria set for everyone and one that belongs to the client.
-/

namespace Screening.Store.Demo

def parameter (id name : Text) (dataType : DataType) (unit : Option Text) (description : Text)
    (named : name.IsName := by decide) : Parameter :=
  ⟨id, name, dataType, unit, some description, .global, none, named⟩

def parameters : List Parameter := [
  parameter "p-carbon" "carbon_emissions" .number (some "tons CO2/year") "Annual carbon emissions",
  parameter "p-board" "board_diversity_pct" .number (some "%")
    "Percentage of board members from underrepresented groups",
  parameter "p-policy" "has_environmental_policy" .boolean none
    "Company has formal environmental policy",
  parameter "p-controversy" "controversy_level" .text none
    "Level of ESG controversies (none, low, medium, high)",
  parameter "p-renewable" "renewable_energy_pct" .number (some "%")
    "Percentage of energy from renewable sources"]

/-- A company and its values of the parameters above. -/
structure Row where
  company : Company
  carbon : Int
  board : Int
  policy : Bool
  controversy : Text
  renewable : Int

def company (id name ticker sector : Text) : Company :=
  ⟨id, name, some ticker, some sector, some "Europe", none⟩

def rows : List Row := [
  ⟨company "greentech" "GreenTech Corp" "GTC" "Technology", 50, 40, true, "none", 80⟩,
  ⟨company "oilco" "OilCo Industries" "OCI" "Energy", 5000, 15, false, "high", 5⟩,
  ⟨company "cleanenergy" "CleanEnergy Inc" "CEI" "Utilities", 20, 50, true, "none", 95⟩,
  ⟨company "fastfashion" "FastFashion Ltd" "FFL" "Consumer", 200, 25, true, "medium", 30⟩,
  ⟨company "sustainablegoods" "SustainableGoods Co" "SGC" "Consumer", 30, 45, true, "low", 70⟩]

def Row.values (r : Row) : List (Text × Data) :=
  [("carbon_emissions", .int r.carbon), ("board_diversity_pct", .int r.board),
    ("has_environmental_policy", .bool r.policy), ("controversy_level", .text r.controversy),
    ("renewable_energy_pct", .int r.renewable)]

/-- The first of January 2024. -/
def day : Date := ⟨738885, by decide⟩

def portfolio : Portfolio :=
  ⟨"main-portfolio", "Main Portfolio", "demo-fund",
    rows.map fun r => ⟨r.company.id, some (.ofRatio false 20 1)⟩⟩

def compare (parameter : Text) (op : Operator) (value : Scalar)
    (named : parameter.IsName := by decide) : Expr :=
  .comparison ⟨parameter, op, .scalar value, named⟩

def standard : CriteriaSet where
  id := "standard-esg"
  name := "Standard ESG Screen"
  version := 1
  description := none
  isGlobal := true
  ownerId := none
  rules := [
    ⟨"r-carbon", "Carbon Emissions Limit", some "Carbon emissions must stay below 500 tons/year",
      compare "carbon_emissions" .ge (.int 500), some "Carbon emissions exceed acceptable limit",
      .exclude⟩,
    ⟨"r-board", "Board Diversity Minimum", some "Board diversity must be at least 30%",
      compare "board_diversity_pct" .lt (.int 30),
      some "Board diversity below minimum threshold", .exclude⟩,
    ⟨"r-policy", "Environmental Policy Required", none,
      compare "has_environmental_policy" .eq (.bool false),
      some "No environmental policy in place", .warn⟩,
    ⟨"r-controversy", "No High Controversies", none,
      compare "controversy_level" .eq (.text "high"),
      some "Company has high-level ESG controversies", .exclude⟩]

def climate : CriteriaSet where
  id := "demo-fund-climate"
  name := "Demo Fund Climate Screen"
  version := 1
  description := none
  isGlobal := false
  ownerId := some "demo-fund"
  rules := [
    ⟨"r-renewable", "Renewable Transition",
      some "High emitters need a majority renewable energy mix",
      .all [compare "carbon_emissions" .gt (.int 100),
        compare "renewable_energy_pct" .lt (.int 50)],
      none, .exclude⟩]

/-- Register a parameter if the store takes it. -/
def register (s : Store) (p : Parameter) : Store := (s.addParameter p).1

/-- Record a value if the store takes it. -/
def record (companyId : Text) (s : Store) (value : Text × Data) : Store :=
  (s.addValue companyId value.1 value.2 day (some "seed")).1

def addRow (s : Store) (r : Row) : Store :=
  r.values.foldl (record r.company.id) (s.addCompany r.company)

def store : Store :=
  (((rows.foldl addRow (parameters.foldl register .empty)).addPortfolio portfolio).addCriteriaSet
    standard).addCriteriaSet climate

end Screening.Store.Demo
