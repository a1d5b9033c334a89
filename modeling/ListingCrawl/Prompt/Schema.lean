/-! The output contract as it is shown to an agent: a JSON schema. -/

namespace ListingCrawl.Prompt

/-- The schema of a record, line by line. -/
def schemaLines : List String := [
  "\x7b",
  "  \"type\": \"object\",",
  "  \"required\": [\"url\", \"status\", \"captured_at\"],",
  "  \"properties\": \x7b",
  "    \"url\": \x7b \"type\": \"string\" \x7d,",
  "    \"status\": \x7b \"enum\": [\"ok\", \"needs_manual\", \"error\"] \x7d,",
  "    \"captured_at\": \x7b \"type\": \"string\", \"format\": \"date-time\" \x7d,",
  "    \"notes\": \x7b \"type\": \"string\", \"description\": \"required when status=needs_manual\" \x7d,",
  "    \"error\": \x7b \"type\": \"string\", \"description\": \"required when status=error\" \x7d,",
  "    \"title\": \x7b \"type\": \"string\" \x7d,",
  "    \"description\": \x7b \"type\": \"string\" \x7d,",
  "    \"currency\": \x7b \"type\": \"string\" \x7d,",
  "    \"price\": \x7b \"type\": [\"number\", \"string\"], \"pattern\": \"^[0-9]+(\\\\.[0-9]+)?$\" \x7d,",
  "    \"images\": \x7b \"type\": \"array\", \"items\": \x7b \"type\": \"string\" \x7d \x7d,",
  "    \"variations\": \x7b",
  "      \"type\": \"array\",",
  "      \"items\": \x7b",
  "        \"type\": \"object\",",
  "        \"required\": [\"title\", \"position\"],",
  "        \"properties\": \x7b",
  "          \"title\": \x7b \"type\": \"string\" \x7d,",
  "          \"position\": \x7b \"type\": \"integer\", \"minimum\": 0 \x7d,",
  "          \"image\": \x7b \"type\": \"string\" \x7d,",
  "          \"images\": \x7b \"type\": \"array\", \"items\": \x7b \"type\": \"string\" \x7d \x7d",
  "        \x7d",
  "      \x7d",
  "    \x7d",
  "  \x7d",
  "\x7d"]

def schema : String :=
  "\n".intercalate schemaLines

end ListingCrawl.Prompt
