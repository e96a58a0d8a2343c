import SecretScan.Signature.Basic

/-!
The built-in signatures. Their order is the order in which they are applied to each line. Every
pattern captures the secret itself as its first group, and every repetition inside that group has an
upper bound, so that one match cannot run to the end of a long line.
-/

namespace SecretScan.Signature

def cloud : List Definition :=
  [{ key := "aws_access_key"
     name := "AWS Access Key"
     severity := .critical
     description := "AWS access key ID"
     pattern :=
       "\\b((?:AKIA|ASIA|ABIA|ACCA|AGPA|AIDA|AIPA|ANPA|ANVA|APKA|AROA|ASCA)[A-Z0-9]" ++
       "\x7b16\x7d)\\b" },
   { key := "aws_secret_key"
     name := "AWS Secret Access Key"
     severity := .critical
     description := "AWS secret access key assigned to an aws_*_key variable"
     pattern :=
       "(?i)\\baws_?(?:secret)?_?(?:access)?_?key\\b[\"']?\\s*[:=]\\s*[\"']?([A-Za-z0-9/+]" ++
       "\x7b40\x7d)(?:[^A-Za-z0-9/+]|$)" },
   { key := "google_api_key"
     name := "Google Cloud API Key"
     severity := .high
     description := "Google Cloud / Firebase API key"
     pattern := "\\b(AIza[0-9A-Za-z_\\-]\x7b35\x7d)" },
   { key := "gcp_service_account_key_id"
     name := "GCP Service Account Key"
     severity := .high
     description := "Private key ID inside a GCP service-account JSON file"
     pattern := "\"private_key_id\"\\s*:\\s*\"([0-9a-f]\x7b40\x7d)\"" }]

def payment : List Definition :=
  [{ key := "stripe_live_key"
     name := "Stripe Live Secret Key"
     severity := .critical
     description := "Stripe live-mode secret or restricted key"
     pattern := "\\b((?:sk|rk)_live_[0-9a-zA-Z]\x7b24,99\x7d)\\b" },
   { key := "stripe_test_key"
     name := "Stripe Test Secret Key"
     severity := .medium
     description := "Stripe test-mode secret or restricted key"
     pattern := "\\b((?:sk|rk)_test_[0-9a-zA-Z]\x7b24,99\x7d)\\b" }]

def hosting : List Definition :=
  [{ key := "github_pat"
     name := "GitHub Personal Access Token"
     severity := .critical
     description := "GitHub classic personal access token"
     pattern := "\\b(ghp_[A-Za-z0-9]\x7b36,40\x7d)\\b" },
   { key := "github_oauth"
     name := "GitHub OAuth Token"
     severity := .critical
     description := "GitHub OAuth access token"
     pattern := "\\b(gho_[A-Za-z0-9]\x7b36,40\x7d)\\b" },
   { key := "github_app_token"
     name := "GitHub App Token"
     severity := .high
     description := "GitHub App user-to-server, server-to-server, or refresh token"
     pattern := "\\b((?:ghu|ghs|ghr)_[A-Za-z0-9]\x7b36,40\x7d)\\b" },
   { key := "github_fine_grained_pat"
     name := "GitHub Fine-Grained Token"
     severity := .critical
     description := "GitHub fine-grained personal access token"
     pattern := "\\b(github_pat_[A-Za-z0-9_]\x7b22,255\x7d)\\b" },
   { key := "gitlab_pat"
     name := "GitLab Personal Access Token"
     severity := .high
     description := "GitLab personal access token"
     pattern := "\\b(glpat-[A-Za-z0-9_\\-]\x7b20,50\x7d)" },
   { key := "npm_token"
     name := "npm Access Token"
     severity := .high
     description := "npm registry access token"
     pattern := "\\b(npm_[A-Za-z0-9]\x7b36\x7d)\\b" }]

def chat : List Definition :=
  [{ key := "slack_token"
     name := "Slack Token"
     severity := .high
     description := "Slack bot, user, app, or workspace token"
     pattern := "\\b(xox[abposr]-[0-9A-Za-z\\-]\x7b10,72\x7d)" },
   { key := "slack_webhook"
     name := "Slack Webhook URL"
     severity := .high
     description := "Slack incoming webhook URL"
     pattern :=
       "(https://hooks\\.slack\\.com/services/T[A-Z0-9]\x7b8,12\x7d/B[A-Z0-9]\x7b8,12\x7d/[A-" ++
       "Za-z0-9]\x7b24,32\x7d)" },
   { key := "discord_webhook"
     name := "Discord Webhook URL"
     severity := .high
     description := "Discord webhook URL"
     pattern :=
       "(https://(?:canary\\.|ptb\\.)?discord(?:app)?\\.com/api/webhooks/[0-9]\x7b17,20\x7d/[" ++
       "A-Za-z0-9_\\-]\x7b60,68\x7d)" },
   { key := "telegram_bot_token"
     name := "Telegram Bot Token"
     severity := .high
     description := "Telegram bot API token"
     pattern := "\\b([0-9]\x7b8,10\x7d:AA[0-9A-Za-z_\\-]\x7b33\x7d)" }]

def tokens : List Definition :=
  [{ key := "jwt"
     name := "JSON Web Token"
     severity := .high
     description := "JSON Web Token (three dot-separated base64url segments)"
     pattern :=
       "\\b(eyJ[A-Za-z0-9_\\-]\x7b7,500\x7d\\.[A-Za-z0-9_\\-]\x7b7,1000\x7d\\.[A-Za-z0-9_\\-]" ++
       "\x7b7,500\x7d)" },
   { key := "private_key"
     name := "Private Key"
     severity := .critical
     description := "PEM-encoded private key header"
     pattern :=
       "(-----BEGIN (?:RSA |EC |DSA |OPENSSH |PGP |ENCRYPTED )?PRIVATE KEY(?: BLOCK)?-----)" },
   { key := "database_uri"
     name := "Database Connection URI"
     severity := .critical
     description := "Database connection string with embedded credentials"
     pattern :=
       "\\b((?:postgres(?:ql)?|mysql|mariadb|mongodb(?:\\+srv)?|rediss?|amqps?|mssql|sqlserve" ++
       "r)://[^\\s:/@\"']\x7b1,64\x7d:[^\\s@\"']\x7b1,128\x7d@[^\\s\"'/?#:]\x7b1,253\x7d)" },
   { key := "generic_api_key"
     name := "Generic API Key"
     severity := .high
     description := "Value assigned to an api_key-style variable"
     pattern :=
       "(?i)(?:api[_\\-]?key|apikey|api[_\\-]?secret)[\"']?\\s*[:=]\\s*[\"']?([A-Za-z0-9_\\-." ++
       "/+=]\x7b16,100\x7d)" },
   { key := "password_assignment"
     name := "Password Assignment"
     severity := .high
     description := "Quoted literal of eight or more characters assigned to a password variable"
     pattern :=
       "(?i)(?:password|passwd|pwd)[A-Za-z0-9_\\-]\x7b0,20\x7d[\"']?\\s*[:=]\\s*[\"']([^\"'" ++
       "\\s]\x7b8,128\x7d)[\"']" },
   { key := "bearer_token"
     name := "Bearer Token"
     severity := .high
     description := "Bearer token in an Authorization value"
     pattern := "(?i)\\bbearer\\s+([A-Za-z0-9_\\-.=~+/]\x7b20,500\x7d)" },
   { key := "oauth_token"
     name := "OAuth Access Token"
     severity := .high
     description := "Value assigned to an access/refresh/OAuth token variable"
     pattern :=
       "(?i)(?:oauth|access|refresh)[_\\-]?token[\"']?\\s*[:=]\\s*[\"']?([A-Za-z0-9_\\-.~+/]" ++
       "\x7b20,200\x7d)" },
   { key := "oauth_client_secret"
     name := "OAuth Client Secret"
     severity := .high
     description := "Value assigned to a client_secret variable"
     pattern :=
       "(?i)client[_\\-]?secret[\"']?\\s*[:=]\\s*[\"']?([A-Za-z0-9_\\-.~]\x7b16,100\x7d)" },
   { key := "openai_api_key"
     name := "OpenAI API Key"
     severity := .high
     description := "OpenAI API key"
     pattern := "\\b(sk-[A-Za-z0-9]\x7b20\x7dT3BlbkFJ[A-Za-z0-9]\x7b20\x7d)\\b" }]

def messaging : List Definition :=
  [{ key := "sendgrid_api_key"
     name := "SendGrid API Key"
     severity := .high
     description := "SendGrid API key"
     pattern := "\\b(SG\\.[A-Za-z0-9_\\-]\x7b22\x7d\\.[A-Za-z0-9_\\-]\x7b43\x7d)" },
   { key := "mailgun_api_key"
     name := "Mailgun API Key"
     severity := .high
     description := "Mailgun private API key"
     pattern := "\\b(key-[0-9a-zA-Z]\x7b32\x7d)\\b" },
   { key := "mailchimp_api_key"
     name := "Mailchimp API Key"
     severity := .high
     description := "Mailchimp API key with datacenter suffix"
     pattern := "\\b([0-9a-f]\x7b32\x7d-us[0-9]\x7b1,2\x7d)\\b" },
   { key := "twilio_api_key"
     name := "Twilio API Key"
     severity := .high
     description := "Twilio API key SID"
     pattern := "\\b(SK[0-9a-fA-F]\x7b32\x7d)\\b" },
   { key := "twilio_account_sid"
     name := "Twilio Account SID"
     severity := .medium
     description := "Twilio account SID"
     pattern := "\\b(AC[0-9a-f]\x7b32\x7d)\\b" }]

def storage : List Definition :=
  [{ key := "azure_storage_key"
     name := "Azure Storage Account Key"
     severity := .critical
     description := "Azure storage account key in a connection string"
     pattern := "(?i)AccountKey\\s*=\\s*([A-Za-z0-9+/]\x7b86,88\x7d=\x7b0,2\x7d)" },
   { key := "dropbox_token"
     name := "Dropbox Access Token"
     severity := .high
     description := "Dropbox short-lived access token"
     pattern := "\\b(sl\\.[A-Za-z0-9_\\-]\x7b130,152\x7d)" }]

def contextual : List Definition :=
  [{ key := "uuid_token"
     name := "Contextual UUID Token"
     severity := .medium
     description := "UUID assigned to a key, token, or secret variable"
     pattern :=
       "(?i)(?:heroku|api[_\\-]?key|secret|token|auth|client[_\\-]?id|password)[A-Za-z0-9_\\-" ++
       "]\x7b0,20\x7d[\"']?\\s*[:=]\\s*[\"']?([0-9a-f]\x7b8\x7d-[0-9a-f]\x7b4\x7d-[0-9a-f]" ++
       "\x7b4\x7d-[0-9a-f]\x7b4\x7d-[0-9a-f]\x7b12\x7d)\\b" }]

def definitions : List Definition :=
  cloud ++ payment ++ hosting ++ chat ++ tokens ++ messaging ++ storage ++ contextual

def builtin : List Signature :=
  definitions.filterMap fun d => d.compile.toOption

def find? (key : Text) : Option Signature :=
  builtin.find? (·.key == key)

end SecretScan.Signature
