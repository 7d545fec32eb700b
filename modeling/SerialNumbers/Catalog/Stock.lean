/-
  SerialNumbers.Catalog.Stock

  The pre-built patterns that come with the engine.
-/
import SerialNumbers.Catalog.Basic

namespace SerialNumbers.Prebuilt

/-- A pre-built pattern that needs no context. -/
def simple (id name description category : String) (tags : List String) (pattern : String)
    (padding : Int) : Prebuilt :=
  { id, name, description, category, tags, pattern, padding, required := [], optional := []
    example_ := [] }

def stock : List Prebuilt :=
  [simple "sales_invoice" "Sales Invoice" "Yearly invoice numbers" "Finance"
     ["invoice", "sales", "yearly"] "INV-\x7bYEAR\x7d-\x7bCOUNTER:5\x7d" 5,
   simple "purchase_order" "Purchase Order" "Monthly purchase order numbers" "Procurement"
     ["purchase", "order", "monthly"] "PO-\x7bYEAR:2\x7d\x7bMONTH\x7d-\x7bCOUNTER:4\x7d" 4,
   simple "payment_receipt" "Payment Receipt" "Receipts for incoming payments" "Finance"
     ["receipt", "payment"] "RCP-\x7bYEAR\x7d-\x7bCOUNTER:6\x7d" 6,
   simple "credit_note" "Credit Note" "Credit notes issued against invoices" "Finance"
     ["credit", "invoice"] "CN-\x7bYEAR\x7d-\x7bCOUNTER:5\x7d" 5,
   simple "delivery_order" "Delivery Order" "Daily delivery order numbers" "Logistics"
     ["delivery", "daily", "shipping"]
     "DO-\x7bYEAR:2\x7d\x7bMONTH\x7d\x7bDAY\x7d-\x7bCOUNTER:3\x7d" 3,
   { simple "tiered_quotation" "Tiered Quotation" "Quotations prefixed with the customer tier"
       "Sales" ["quotation", "customer", "tier"]
       "QT-\x7bCUSTOMER_TIER\x7d-\x7bYEAR\x7d-\x7bCOUNTER:4\x7d" 4 with
     optional := ["customer_tier"], example_ := [("customer_tier", .text "VIP")] },
   { simple "vip_order" "VIP Order" "Orders marked VIP only for VIP customers" "Sales"
       ["order", "vip", "conditional"]
       "ORD-\x7b?TIER=VIP?VIP-\x7bCOUNTER:4\x7d:\x7bCOUNTER:4\x7d\x7d" 4 with
     required := ["tier"], example_ := [("tier", .text "VIP")] },
   { simple "department_invoice" "Department Invoice" "Invoices numbered per department"
       "Finance" ["invoice", "department"]
       "INV-\x7bDEPARTMENT:ABBREV\x7d-\x7bYEAR\x7d-\x7bCOUNTER:4\x7d" 4 with
     required := ["department_code"], example_ := [("department_code", .text "SALES")] },
   simple "quarterly_report" "Quarterly Report" "Report references grouped by quarter"
     "Reporting" ["report", "quarterly"]
     "RPT-\x7bYEAR\x7d-\x7bQUARTER:Q\x7d-\x7bCOUNTER:3\x7d" 3,
   simple "support_ticket" "Support Ticket" "Weekly support ticket references" "Support"
     ["ticket", "support", "weekly"] "TKT-\x7bWEEK_YEAR\x7dW\x7bWEEK\x7d-\x7bCOUNTER:4\x7d" 4]

end SerialNumbers.Prebuilt
