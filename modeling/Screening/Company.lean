import Screening.Schema.Scalar

/-!
# Companies and portfolios

A portfolio belongs to a client and holds companies by their ids, whether or not a company of that
id is known.
-/

namespace Screening

structure Company where
  id : Text
  name : Text
  ticker : Option Text
  sector : Option Text
  region : Option Text
  country : Option Text
  deriving DecidableEq

structure Holding where
  companyId : Text
  weight : Option Binary64
  deriving DecidableEq

structure Portfolio where
  id : Text
  name : Text
  clientId : Text
  holdings : List Holding
  deriving DecidableEq

namespace Company

def check : Check Company :=
  Check.record fun entries =>
    Company.mk
      <$> Check.required entries "id" Check.text
      <*> Check.required entries "name" Check.text
      <*> Check.nullable entries "ticker" Check.text
      <*> Check.nullable entries "sector" Check.text
      <*> Check.nullable entries "region" Check.text
      <*> Check.nullable entries "country" Check.text

def toData (c : Company) : Data :=
  .object [("id", .text c.id), ("name", .text c.name), ("ticker", .option .text c.ticker),
    ("sector", .option .text c.sector), ("region", .option .text c.region),
    ("country", .option .text c.country)]

end Company

namespace Holding

def check : Check Holding :=
  Check.record fun entries =>
    Holding.mk
      <$> Check.required entries "company_id" Check.text
      <*> Check.nullable entries "weight" Check.floatFromZero

def toData (h : Holding) : Data :=
  .object [("company_id", .text h.companyId), ("weight", .option .float h.weight)]

end Holding

namespace Portfolio

/-- The companies held, in order and with repeats. -/
def companyIds (p : Portfolio) : List Text := p.holdings.map (·.companyId)

def check : Check Portfolio :=
  Check.record fun entries =>
    Portfolio.mk
      <$> Check.required entries "id" Check.text
      <*> Check.required entries "name" Check.text
      <*> Check.required entries "client_id" Check.text
      <*> Check.optional entries "holdings" [] (Check.list Holding.check)

def toData (p : Portfolio) : Data :=
  .object [("id", .text p.id), ("name", .text p.name), ("client_id", .text p.clientId),
    ("holdings", .list (p.holdings.map Holding.toData))]

end Portfolio

end Screening
