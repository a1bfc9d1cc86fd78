/-!
# The IDNA mapping table

How each code point is treated when a domain name is prepared for the DNS (Unicode IDNA
compatibility processing): kept, mapped to other text, ignored, or refused. The table is a
list of entries sorted by first code point, with disjoint spans:

* `lo-hi:x`, `lo-hi:i`, `lo-hi:d`: refused, ignored, or a deviation (kept here);
* `lo-hi:mS:D`: the code points `lo, lo + S, …` up to `hi` map to the code point `D` further
  (hexadecimal, possibly negative);
* `lo-hi:s:A B …`: every code point of the span maps to the text of code points `A B …`.

Every code point no entry covers is kept as it is.
-/

namespace HandlePool.Url

/-- The entries of the mapping table, comma separated. -/
def idnaMappingText : String :=
  "41-5a:m1:20,80-9f:x,a0-a0:m1:-80,a8-a8:s:20 308,aa-aa:m1:-49,ad-ad:i,af-af:s:20 304,b2-b3:m1:-80,b4-b4:s:20 301,b5-b5:m1:307,b8-b8:s:20 327,b9-b9:m1:-88,ba-ba:m1:-4b,bc-bc:s:31 2044 34,bd-bd:s:31 2044 32,be-be:s:33 2044 34,c0-d6:m1:20,d8-de:m1:20,df-df:d,100-12e:m2:1,130-130:s:69 307,132-133:s:69 6a,134-136:m2:1,139-13d:m2:1,13f-140:s:6c b7,141-147:m2:1,149-149:s:2bc 6e,14a-176:m2:1,178-178:m1:-79,179-17d:m2:1,17f-17f:m1:-10c,181-181:m1:d2,182-184:m2:1,186-186:m1:ce,187-187:m1:1,189-18a:m1:cd,18b-18b:m1:1,18e-18e:m1:4f,18f-18f:m1:ca,190-190:m1:cb,191-191:m1:1,193-193:m1:cd,194-194:m1:cf,196-196:m1:d3,197-197:m1:d1,198-198:m1:1,19c-19c:m1:d3,19d-19d:m1:d5,19f-19f:m1:d6,1a0-1a4:m2:1,1a6-1a6:m1:da,1a7-1a7:m1:1,1a9-1a9:m1:da,1ac-1ac:m1:1,1ae-1ae:m1:da,1af-1af:m1:1,1b1-1b2:m1:d9,1b3-1b5:m2:1,1b7-1b7:m1:db,1b8-1b8:m1:1,1bc-1bc:m1:1,1c4-1c6:s:64 17e,1c7-1c9:s:6c 6a,1ca-1cc:s:6e 6a,1cd-1db:m2:1,1de-1ee:m2:1,1f1-1f3:s:64 7a,1f4-1f4:m1:1,1f6-1f6:m1:-61,1f7-1f7:m1:-38,1f8-21e:m2:1,220-220:m1:-82," ++
  "222-232:m2:1,23a-23a:m1:2a2b,23b-23b:m1:1,23d-23d:m1:-a3,23e-23e:m1:2a28,241-241:m1:1,243-243:m1:-c3,244-244:m1:45,245-245:m1:47,246-24e:m2:1,2b0-2b0:m1:-248,2b1-2b1:m1:-4b,2b2-2b2:m1:-248,2b3-2b3:m1:-241,2b4-2b4:m1:-3b,2b5-2b5:m1:-3a,2b6-2b6:m1:-35,2b7-2b7:m1:-240,2b8-2b8:m1:-23f,2d8-2d8:s:20 306,2d9-2d9:s:20 307,2da-2da:s:20 30a,2db-2db:s:20 328,2dc-2dc:s:20 303,2dd-2dd:s:20 30b,2e0-2e0:m1:-7d,2e1-2e1:m1:-275,2e2-2e2:m1:-26f,2e3-2e3:m1:-26b,2e4-2e4:m1:-4f,340-341:m1:-40,343-343:m1:-30,344-344:s:308 301,345-345:m1:74,34f-34f:i,370-372:m2:1,374-374:m1:-bb,376-376:m1:1,378-379:x,37a-37a:s:20 3b9,37e-37e:m1:-343,37f-37f:m1:74,380-383:x,384-384:s:20 301,385-385:s:20 308 301,386-386:m1:26,387-387:m1:-2d0,388-38a:m1:25,38b-38b:x,38c-38c:m1:40,38d-38d:x,38e-38f:m1:3f,391-3a1:m1:20,3a2-3a2:x,3a3-3ab:m1:20,3c2-3c2:d,3cf-3cf:m1:8,3d0-3d0:m1:-1e,3d1-3d1:m1:-19,3d2-3d2:m1:-d,3d3-3d3:m1:-6,3d4-3d4:m1:-9,3d5-3d5:m1:-f,3d6-3d6:m1:-16,3d8-3ee:m2:1,3f0-3f0:m1:-36,3f1-3f1:m1:-30,3f2-3f2:m1:-2f," ++
  "3f4-3f4:m1:-3c,3f5-3f5:m1:-40,3f7-3f7:m1:1,3f9-3f9:m1:-36,3fa-3fa:m1:1,3fd-3ff:m1:-82,400-40f:m1:50,410-42f:m1:20,460-480:m2:1,48a-4be:m2:1,4c0-4c0:m1:f,4c1-4cd:m2:1,4d0-52e:m2:1,530-530:x,531-556:m1:30,557-558:x,587-587:s:565 582,58b-58c:x,590-590:x,5c8-5cf:x,5eb-5ee:x,5f5-605:x,61c-61c:x,675-675:s:627 674,676-676:s:648 674,677-677:s:6c7 674,678-678:s:64a 674,6dd-6dd:x,70e-70f:x,74b-74c:x,7b2-7bf:x,7fb-7fc:x,82e-82f:x,83f-83f:x,85c-85d:x,85f-85f:x,86b-86f:x,890-896:x,8e2-8e2:x,958-958:s:915 93c,959-959:s:916 93c,95a-95a:s:917 93c,95b-95b:s:91c 93c,95c-95c:s:921 93c,95d-95d:s:922 93c,95e-95e:s:92b 93c,95f-95f:s:92f 93c,984-984:x,98d-98e:x,991-992:x,9a9-9a9:x,9b1-9b1:x,9b3-9b5:x,9ba-9bb:x,9c5-9c6:x,9c9-9ca:x,9cf-9d6:x,9d8-9db:x,9dc-9dc:s:9a1 9bc,9dd-9dd:s:9a2 9bc,9de-9de:x,9df-9df:s:9af 9bc,9e4-9e5:x,9ff-a00:x,a04-a04:x,a0b-a0e:x,a11-a12:x,a29-a29:x,a31-a31:x,a33-a33:s:a32 a3c,a34-a34:x,a36-a36:s:a38 a3c,a37-a37:x,a3a-a3b:x,a3d-a3d:x,a43-a46:x,a49-a4a:x,a4e-a50:x,a52-a58:x," ++
  "a59-a59:s:a16 a3c,a5a-a5a:s:a17 a3c,a5b-a5b:s:a1c a3c,a5d-a5d:x,a5e-a5e:s:a2b a3c,a5f-a65:x,a77-a80:x,a84-a84:x,a8e-a8e:x,a92-a92:x,aa9-aa9:x,ab1-ab1:x,ab4-ab4:x,aba-abb:x,ac6-ac6:x,aca-aca:x,ace-acf:x,ad1-adf:x,ae4-ae5:x,af2-af8:x,b00-b00:x,b04-b04:x,b0d-b0e:x,b11-b12:x,b29-b29:x,b31-b31:x,b34-b34:x,b3a-b3b:x,b45-b46:x,b49-b4a:x,b4e-b54:x,b58-b5b:x,b5c-b5c:s:b21 b3c,b5d-b5d:s:b22 b3c,b5e-b5e:x,b64-b65:x,b78-b81:x,b84-b84:x,b8b-b8d:x,b91-b91:x,b96-b98:x,b9b-b9b:x,b9d-b9d:x,ba0-ba2:x,ba5-ba7:x,bab-bad:x,bba-bbd:x,bc3-bc5:x,bc9-bc9:x,bce-bcf:x,bd1-bd6:x,bd8-be5:x,bfb-bff:x,c0d-c0d:x,c11-c11:x,c29-c29:x,c3a-c3b:x,c45-c45:x,c49-c49:x,c4e-c54:x,c57-c57:x,c5b-c5b:x,c5e-c5f:x,c64-c65:x,c70-c76:x,c8d-c8d:x,c91-c91:x,ca9-ca9:x,cb4-cb4:x,cba-cbb:x,cc5-cc5:x,cc9-cc9:x,cce-cd4:x,cd7-cdb:x,cdf-cdf:x,ce4-ce5:x,cf0-cf0:x,cf4-cff:x,d0d-d0d:x,d11-d11:x,d45-d45:x,d49-d49:x,d50-d53:x,d64-d65:x,d80-d80:x,d84-d84:x,d97-d99:x,db2-db2:x,dbc-dbc:x,dbe-dbf:x,dc7-dc9:x,dcb-dce:x,dd5-dd5:x,dd7-dd7:x,de0-de5:x," ++
  "df0-df1:x,df5-e00:x,e33-e33:s:e4d e32,e3b-e3e:x,e5c-e80:x,e83-e83:x,e85-e85:x,e8b-e8b:x,ea4-ea4:x,ea6-ea6:x,eb3-eb3:s:ecd eb2,ebe-ebf:x,ec5-ec5:x,ec7-ec7:x,ecf-ecf:x,eda-edb:x,edc-edc:s:eab e99,edd-edd:s:eab ea1,ee0-eff:x,f0c-f0c:m1:-1,f43-f43:s:f42 fb7,f48-f48:x,f4d-f4d:s:f4c fb7,f52-f52:s:f51 fb7,f57-f57:s:f56 fb7,f5c-f5c:s:f5b fb7,f69-f69:s:f40 fb5,f6d-f70:x,f73-f73:s:f71 f72,f75-f75:s:f71 f74,f76-f76:s:fb2 f80,f77-f77:s:fb2 f71 f80,f78-f78:s:fb3 f80,f79-f79:s:fb3 f71 f80,f81-f81:s:f71 f80,f93-f93:s:f92 fb7,f98-f98:x,f9d-f9d:s:f9c fb7,fa2-fa2:s:fa1 fb7,fa7-fa7:s:fa6 fb7,fac-fac:s:fab fb7,fb9-fb9:s:f90 fb5,fbd-fbd:x,fcd-fcd:x,fdb-fff:x,10a0-10c5:m1:1c60,10c6-10c6:x,10c7-10c7:m1:1c60,10c8-10cc:x,10cd-10cd:m1:1c60,10ce-10cf:x,10fc-10fc:m1:-20,115f-1160:i,1249-1249:x,124e-124f:x,1257-1257:x,1259-1259:x,125e-125f:x,1289-1289:x,128e-128f:x,12b1-12b1:x,12b6-12b7:x,12bf-12bf:x,12c1-12c1:x,12c6-12c7:x,12d7-12d7:x,1311-1311:x,1316-1317:x,135b-135c:x,137d-137f:x,139a-139f:x,13f6-13f7:x," ++
  "13f8-13fd:m1:-8,13fe-13ff:x,1680-1680:x,169d-169f:x,16f9-16ff:x,1716-171e:x,1737-173f:x,1754-175f:x,176d-176d:x,1771-1771:x,1774-177f:x,17b4-17b5:i,17de-17df:x,17ea-17ef:x,17fa-17ff:x,180b-180f:i,181a-181f:x,1879-187f:x,18ab-18af:x,18f6-18ff:x,191f-191f:x,192c-192f:x,193c-193f:x,1941-1943:x,196e-196f:x,1975-197f:x,19ac-19af:x,19ca-19cf:x,19db-19dd:x,1a1c-1a1d:x,1a5f-1a5f:x,1a7d-1a7e:x,1a8a-1a8f:x,1a9a-1a9f:x,1aae-1aaf:x,1ade-1adf:x,1aec-1aff:x,1b4d-1b4d:x,1bf4-1bfb:x,1c38-1c3a:x,1c4a-1c4c:x,1c80-1c80:m1:-184e,1c81-1c81:m1:-184d,1c82-1c82:m1:-1844,1c83-1c83:m1:-1842,1c84-1c85:s:442,1c86-1c86:m1:-183c,1c87-1c87:m1:-1824,1c88-1c88:m1:89c3,1c89-1c89:m1:1,1c8b-1c8f:x,1c90-1cba:m1:-bc0,1cbb-1cbc:x,1cbd-1cbf:m1:-bc0,1cc8-1ccf:x,1cfb-1cff:x,1d2c-1d2c:m1:-1ccb,1d2d-1d2d:m1:-1c47,1d2e-1d30:m2:-1ccc,1d31-1d31:m1:-1ccc,1d32-1d32:m1:-1b55,1d33-1d3a:m1:-1ccc,1d3c-1d3c:m1:-1ccd,1d3d-1d3d:m1:-1b1a,1d3e-1d3e:m1:-1cce,1d3f-1d3f:m1:-1ccd,1d40-1d41:m1:-1ccc,1d42-1d42:m1:-1ccb,1d43-1d43:m1:-1ce2," ++
  "1d44-1d45:m1:-1af4,1d46-1d46:m1:-44,1d47-1d47:m1:-1ce5,1d48-1d49:m1:-1ce4,1d4a-1d4a:m1:-1af1,1d4b-1d4c:m1:-1af0,1d4d-1d4d:m1:-1ce6,1d4f-1d4f:m1:-1ce4,1d50-1d50:m1:-1ce3,1d51-1d51:m1:-1c06,1d52-1d52:m1:-1ce3,1d53-1d53:m1:-1aff,1d54-1d55:m1:-3e,1d56-1d56:m1:-1ce6,1d57-1d58:m1:-1ce3,1d59-1d59:m1:-3c,1d5a-1d5a:m1:-1aeb,1d5b-1d5b:m1:-1ce5,1d5c-1d5c:m1:-37,1d5d-1d5f:m1:-19ab,1d60-1d61:m1:-199a,1d62-1d62:m1:-1cf9,1d63-1d63:m1:-1cf1,1d64-1d65:m1:-1cef,1d66-1d67:m1:-19b4,1d68-1d68:m1:-19a7,1d69-1d6a:m1:-19a3,1d78-1d78:m1:-193b,1d9b-1d9b:m1:-1b49,1d9c-1d9c:m1:-1d39,1d9d-1d9d:m1:-1b48,1d9e-1d9e:m1:-1cae,1d9f-1d9f:m1:-1b43,1da0-1da0:m1:-1d3a,1da1-1da1:m1:-1b42,1da2-1da2:m1:-1b41,1da3-1da3:m1:-1b3e,1da4-1da6:m1:-1b3c,1da7-1da7:m1:-2c,1da8-1da8:m1:-1b0b,1da9-1da9:m1:-1b3c,1daa-1daa:m1:-25,1dab-1dab:m1:-1b0c,1dac-1dac:m1:-1b3b,1dad-1dad:m1:-1b3d,1dae-1db1:m1:-1b3c,1db2-1db2:m1:-1b3a,1db3-1db4:m1:-1b31,1db5-1db5:m1:-1c0a,1db6-1db7:m1:-1b2d,1db8-1db8:m1:-9c,1db9-1dba:m1:-1b2e,1dbb-1dbb:m1:-1d41," ++
  "1dbc-1dbe:m1:-1b2c,1dbf-1dbf:m1:-1a07,1e00-1e94:m2:1,1e9a-1e9a:s:61 2be,1e9b-1e9b:m1:-3a,1e9e-1e9e:m1:-1dbf,1ea0-1efe:m2:1,1f08-1f0f:m1:-8,1f16-1f17:x,1f18-1f1d:m1:-8,1f1e-1f1f:x,1f28-1f2f:m1:-8,1f38-1f3f:m1:-8,1f46-1f47:x,1f48-1f4d:m1:-8,1f4e-1f4f:x,1f58-1f58:x,1f59-1f59:m1:-8,1f5a-1f5a:x,1f5b-1f5b:m1:-8,1f5c-1f5c:x,1f5d-1f5d:m1:-8,1f5e-1f5e:x,1f5f-1f5f:m1:-8,1f68-1f6f:m1:-8,1f71-1f71:m1:-1bc5,1f73-1f73:m1:-1bc6,1f75-1f75:m1:-1bc7,1f77-1f77:m1:-1bc8,1f79-1f79:m1:-1bad,1f7b-1f7b:m1:-1bae,1f7d-1f7d:m1:-1baf,1f7e-1f7f:x,1f80-1f80:s:1f00 3b9,1f81-1f81:s:1f01 3b9,1f82-1f82:s:1f02 3b9,1f83-1f83:s:1f03 3b9,1f84-1f84:s:1f04 3b9,1f85-1f85:s:1f05 3b9,1f86-1f86:s:1f06 3b9,1f87-1f87:s:1f07 3b9,1f88-1f88:s:1f00 3b9,1f89-1f89:s:1f01 3b9,1f8a-1f8a:s:1f02 3b9,1f8b-1f8b:s:1f03 3b9,1f8c-1f8c:s:1f04 3b9,1f8d-1f8d:s:1f05 3b9,1f8e-1f8e:s:1f06 3b9,1f8f-1f8f:s:1f07 3b9,1f90-1f90:s:1f20 3b9,1f91-1f91:s:1f21 3b9,1f92-1f92:s:1f22 3b9,1f93-1f93:s:1f23 3b9,1f94-1f94:s:1f24 3b9,1f95-1f95:s:1f25 3b9," ++
  "1f96-1f96:s:1f26 3b9,1f97-1f97:s:1f27 3b9,1f98-1f98:s:1f20 3b9,1f99-1f99:s:1f21 3b9,1f9a-1f9a:s:1f22 3b9,1f9b-1f9b:s:1f23 3b9,1f9c-1f9c:s:1f24 3b9,1f9d-1f9d:s:1f25 3b9,1f9e-1f9e:s:1f26 3b9,1f9f-1f9f:s:1f27 3b9,1fa0-1fa0:s:1f60 3b9,1fa1-1fa1:s:1f61 3b9,1fa2-1fa2:s:1f62 3b9,1fa3-1fa3:s:1f63 3b9,1fa4-1fa4:s:1f64 3b9,1fa5-1fa5:s:1f65 3b9,1fa6-1fa6:s:1f66 3b9,1fa7-1fa7:s:1f67 3b9,1fa8-1fa8:s:1f60 3b9,1fa9-1fa9:s:1f61 3b9,1faa-1faa:s:1f62 3b9,1fab-1fab:s:1f63 3b9,1fac-1fac:s:1f64 3b9,1fad-1fad:s:1f65 3b9,1fae-1fae:s:1f66 3b9,1faf-1faf:s:1f67 3b9,1fb2-1fb2:s:1f70 3b9,1fb3-1fb3:s:3b1 3b9,1fb4-1fb4:s:3ac 3b9,1fb5-1fb5:x,1fb7-1fb7:s:1fb6 3b9,1fb8-1fb9:m1:-8,1fba-1fba:m1:-4a,1fbb-1fbb:m1:-1c0f,1fbc-1fbc:s:3b1 3b9,1fbd-1fbd:s:20 313,1fbe-1fbe:m1:-1c05,1fbf-1fbf:s:20 313,1fc0-1fc0:s:20 342,1fc1-1fc1:s:20 308 342,1fc2-1fc2:s:1f74 3b9,1fc3-1fc3:s:3b7 3b9,1fc4-1fc4:s:3ae 3b9,1fc5-1fc5:x,1fc7-1fc7:s:1fc6 3b9,1fc8-1fc8:m1:-56,1fc9-1fc9:m1:-1c1c,1fca-1fca:m1:-56,1fcb-1fcb:m1:-1c1d,1fcc-1fcc:s:3b7 3b9," ++
  "1fcd-1fcd:s:20 313 300,1fce-1fce:s:20 313 301,1fcf-1fcf:s:20 313 342,1fd3-1fd3:m1:-1c43,1fd4-1fd5:x,1fd8-1fd9:m1:-8,1fda-1fda:m1:-64,1fdb-1fdb:m1:-1c2c,1fdc-1fdc:x,1fdd-1fdd:s:20 314 300,1fde-1fde:s:20 314 301,1fdf-1fdf:s:20 314 342,1fe3-1fe3:m1:-1c33,1fe8-1fe9:m1:-8,1fea-1fea:m1:-70,1feb-1feb:m1:-1c1e,1fec-1fec:m1:-7,1fed-1fed:s:20 308 300,1fee-1fee:s:20 308 301,1fef-1fef:m1:-1f8f,1ff0-1ff1:x,1ff2-1ff2:s:1f7c 3b9,1ff3-1ff3:s:3c9 3b9,1ff4-1ff4:s:3ce 3b9,1ff5-1ff5:x,1ff7-1ff7:s:1ff6 3b9,1ff8-1ff8:m1:-80,1ff9-1ff9:m1:-1c2d,1ffa-1ffa:m1:-7e,1ffb-1ffb:m1:-1c2d,1ffc-1ffc:s:3c9 3b9,1ffd-1ffd:s:20 301,1ffe-1ffe:s:20 314,1fff-1fff:x,2000-200a:s:20,200b-200b:i,200c-200d:d,200e-200f:x,2011-2011:m1:-1,2017-2017:s:20 333,2024-2026:x,2028-202e:x,202f-202f:m1:-200f,2033-2033:s:2032 2032,2034-2034:s:2032 2032 2032,2036-2036:s:2035 2035,2037-2037:s:2035 2035 2035,203c-203c:s:21 21,203e-203e:s:20 305,2047-2047:s:3f 3f,2048-2048:s:3f 21,2049-2049:s:21 3f,2057-2057:s:2032 2032 2032 2032," ++
  "205f-205f:m1:-203f,2060-2064:i,2065-2069:x,206a-206f:i,2070-2070:m1:-2040,2071-2071:m1:-2008,2072-2073:x,2074-2079:m1:-2040,207a-207a:m1:-204f,207b-207b:m1:197,207c-207c:m1:-203f,207d-207e:m1:-2055,207f-207f:m1:-2011,2080-2089:m1:-2050,208a-208a:m1:-205f,208b-208b:m1:187,208c-208c:m1:-204f,208d-208e:m1:-2065,208f-208f:x,2090-2090:m1:-202f,2091-2091:m1:-202c,2092-2092:m1:-2023,2093-2093:m1:-201b,2094-2094:m1:-1e3b,2095-2095:m1:-202d,2096-2099:m1:-202b,209a-209a:m1:-202a,209b-209c:m1:-2028,209d-209f:x,20a8-20a8:s:72 73,20c2-20cf:x,20f1-20ff:x,2100-2100:s:61 2f 63,2101-2101:s:61 2f 73,2102-2102:m1:-209f,2103-2103:s:b0 63,2105-2105:s:63 2f 6f,2106-2106:s:63 2f 75,2107-2107:m1:-1eac,2109-2109:s:b0 66,210a-210a:m1:-20a3,210b-210e:s:68,210f-210f:m1:-1fe8,2110-2111:s:69,2112-2113:s:6c,2115-2115:m1:-20a7,2116-2116:s:6e 6f,2119-211a:m1:-20a9,211b-211d:s:72,2120-2120:s:73 6d,2121-2121:s:74 65 6c,2122-2122:s:74 6d,2124-2124:m1:-20aa,2126-2126:m1:-1d5d,2128-2128:m1:-20ae,212a-212a:m1:-20bf," ++
  "212b-212b:m1:-2046,212c-212d:m1:-20ca,212f-2130:s:65,2131-2131:m1:-20cb,2132-2132:m1:1c,2133-2133:m1:-20c6,2134-2134:m1:-20c5,2135-2138:m1:-1b65,2139-2139:m1:-20d0,213b-213b:s:66 61 78,213c-213c:m1:-1d7c,213d-213e:s:3b3,213f-213f:m1:-1d7f,2140-2140:m1:d1,2145-2146:s:64,2147-2147:m1:-20e2,2148-2149:m1:-20df,2150-2150:s:31 2044 37,2151-2151:s:31 2044 39,2152-2152:s:31 2044 31 30,2153-2153:s:31 2044 33,2154-2154:s:32 2044 33,2155-2155:s:31 2044 35,2156-2156:s:32 2044 35,2157-2157:s:33 2044 35,2158-2158:s:34 2044 35,2159-2159:s:31 2044 36,215a-215a:s:35 2044 36,215b-215b:s:31 2044 38,215c-215c:s:33 2044 38,215d-215d:s:35 2044 38,215e-215e:s:37 2044 38,215f-215f:s:31 2044,2160-2160:m1:-20f7,2161-2161:s:69 69,2162-2162:s:69 69 69,2163-2163:s:69 76,2164-2164:m1:-20ee,2165-2165:s:76 69,2166-2166:s:76 69 69,2167-2167:s:76 69 69 69,2168-2168:s:69 78,2169-2169:m1:-20f1,216a-216a:s:78 69,216b-216b:s:78 69 69,216c-216c:m1:-2100,216d-216e:m1:-210a,216f-216f:m1:-2102,2170-2170:m1:-2107," ++
  "2171-2171:s:69 69,2172-2172:s:69 69 69,2173-2173:s:69 76,2174-2174:m1:-20fe,2175-2175:s:76 69,2176-2176:s:76 69 69,2177-2177:s:76 69 69 69,2178-2178:s:69 78,2179-2179:m1:-2101,217a-217a:s:78 69,217b-217b:s:78 69 69,217c-217c:m1:-2110,217d-217e:m1:-211a,217f-217f:m1:-2112,2183-2183:m1:1,2189-2189:s:30 2044 33,218c-218f:x,222c-222c:s:222b 222b,222d-222d:s:222b 222b 222b,222f-222f:s:222e 222e,2230-2230:s:222e 222e 222e,2329-232a:m1:cdf,242a-243f:x,244b-245f:x,2460-2468:m1:-242f,2469-2469:s:31 30,246a-246a:s:31 31,246b-246b:s:31 32,246c-246c:s:31 33,246d-246d:s:31 34,246e-246e:s:31 35,246f-246f:s:31 36,2470-2470:s:31 37,2471-2471:s:31 38,2472-2472:s:31 39,2473-2473:s:32 30,2474-2474:s:28 31 29,2475-2475:s:28 32 29,2476-2476:s:28 33 29,2477-2477:s:28 34 29,2478-2478:s:28 35 29,2479-2479:s:28 36 29,247a-247a:s:28 37 29,247b-247b:s:28 38 29,247c-247c:s:28 39 29,247d-247d:s:28 31 30 29,247e-247e:s:28 31 31 29,247f-247f:s:28 31 32 29,2480-2480:s:28 31 33 29,2481-2481:s:28 31 34 29," ++
  "2482-2482:s:28 31 35 29,2483-2483:s:28 31 36 29,2484-2484:s:28 31 37 29,2485-2485:s:28 31 38 29,2486-2486:s:28 31 39 29,2487-2487:s:28 32 30 29,2488-249b:x,249c-249c:s:28 61 29,249d-249d:s:28 62 29,249e-249e:s:28 63 29,249f-249f:s:28 64 29,24a0-24a0:s:28 65 29,24a1-24a1:s:28 66 29,24a2-24a2:s:28 67 29,24a3-24a3:s:28 68 29,24a4-24a4:s:28 69 29,24a5-24a5:s:28 6a 29,24a6-24a6:s:28 6b 29,24a7-24a7:s:28 6c 29,24a8-24a8:s:28 6d 29,24a9-24a9:s:28 6e 29,24aa-24aa:s:28 6f 29,24ab-24ab:s:28 70 29,24ac-24ac:s:28 71 29,24ad-24ad:s:28 72 29,24ae-24ae:s:28 73 29,24af-24af:s:28 74 29,24b0-24b0:s:28 75 29,24b1-24b1:s:28 76 29,24b2-24b2:s:28 77 29,24b3-24b3:s:28 78 29,24b4-24b4:s:28 79 29,24b5-24b5:s:28 7a 29,24b6-24cf:m1:-2455,24d0-24e9:m1:-246f,24ea-24ea:m1:-24ba,2a0c-2a0c:s:222b 222b 222b 222b,2a74-2a74:s:3a 3a 3d,2a75-2a75:s:3d 3d,2a76-2a76:s:3d 3d 3d,2adc-2adc:s:2add 338,2b74-2b75:x,2c00-2c2f:m1:30,2c60-2c60:m1:1,2c62-2c62:m1:-29f7,2c63-2c63:m1:-ee6,2c64-2c64:m1:-29e7,2c67-2c6b:m2:1," ++
  "2c6d-2c6d:m1:-2a1c,2c6e-2c6e:m1:-29fd,2c6f-2c6f:m1:-2a1f,2c70-2c70:m1:-2a1e,2c72-2c72:m1:1,2c75-2c75:m1:1,2c7c-2c7c:m1:-2c12,2c7d-2c7d:m1:-2c07,2c7e-2c7f:m1:-2a3f,2c80-2ce2:m2:1,2ceb-2ced:m2:1,2cf2-2cf2:m1:1,2cf4-2cf8:x,2d26-2d26:x,2d28-2d2c:x,2d2e-2d2f:x,2d68-2d6e:x,2d6f-2d6f:m1:-e,2d71-2d7e:x,2d97-2d9f:x,2da7-2da7:x,2daf-2daf:x,2db7-2db7:x,2dbf-2dbf:x,2dc7-2dc7:x,2dcf-2dcf:x,2dd7-2dd7:x,2ddf-2ddf:x,2e5e-2e7f:x,2e9a-2e9a:x,2e9f-2e9f:m1:3d2e,2ef3-2ef3:m1:70ac,2ef4-2eff:x,2f00-2f00:m1:1f00,2f01-2f01:m1:1f27,2f02-2f02:m1:1f34,2f03-2f03:m1:1f3c,2f04-2f04:m1:1f55,2f05-2f05:m1:1f80,2f06-2f06:m1:1f86,2f07-2f07:m1:1f99,2f08-2f08:m1:1fb2,2f09-2f09:m1:2236,2f0a-2f0a:m1:225b,2f0b-2f0b:m1:2260,2f0c-2f0c:m1:2276,2f0d-2f0d:m1:2289,2f0e-2f0e:m1:229d,2f0f-2f0f:m1:22d1,2f10-2f10:m1:22e5,2f11-2f11:m1:22ef,2f12-2f12:m1:2389,2f13-2f13:m1:23e6,2f14-2f14:m1:2401,2f15-2f15:m1:2405,2f16-2f16:m1:2422,2f17-2f17:m1:242a,2f18-2f18:m1:2444,2f19-2f19:m1:2450,2f1a-2f1a:m1:2468,2f1b-2f1b:m1:249b,2f1c-2f1c:m1:24ac," ++
  "2f1d-2f1d:m1:24c6,2f1e-2f1e:m1:27b9,2f1f-2f1f:m1:2800,2f20-2f20:m1:29cb,2f21-2f21:m1:29e1,2f22-2f22:m1:29e8,2f23-2f23:m1:29f2,2f24-2f24:m1:2a03,2f25-2f25:m1:2a4e,2f26-2f26:m1:2c2a,2f27-2f27:m1:2c59,2f28-2f28:m1:2cd0,2f29-2f29:m1:2ce6,2f2a-2f2a:m1:2cf8,2f2b-2f2b:m1:2d0d,2f2c-2f2c:m1:2d42,2f2d-2f2d:m1:2d44,2f2e-2f2e:m1:2ead,2f2f-2f2f:m1:2eb6,2f30-2f30:m1:2ec1,2f31-2f31:m1:2ecd,2f32-2f32:m1:2f40,2f33-2f33:m1:2f47,2f34-2f34:m1:2f4b,2f35-2f35:m1:2fbf,2f36-2f36:m1:2fc8,2f37-2f37:m1:2fd4,2f38-2f38:m1:2fdb,2f39-2f39:m1:3017,2f3a-2f3a:m1:3027,2f3b-2f3b:m1:3038,2f3c-2f3c:m1:3087,2f3d-2f3d:m1:32cb,2f3e-2f3e:m1:32f8,2f3f-2f3f:m1:330c,2f40-2f40:m1:35ef,2f41-2f41:m1:35f3,2f42-2f42:m1:3645,2f43-2f43:m1:3654,2f44-2f44:m1:3660,2f45-2f45:m1:3674,2f46-2f46:m1:369a,2f47-2f47:m1:369e,2f48-2f48:m1:37a8,2f49-2f49:m1:37bf,2f4a-2f4a:m1:37de,2f4b-2f4b:m1:3bd5,2f4c-2f4c:m1:3c16,2f4d-2f4d:m1:3c2c,2f4e-2f4e:m1:3c65,2f4f-2f4f:m1:3c7c,2f50-2f50:m1:3c84,2f51-2f51:m1:3c8a,2f52-2f52:m1:3cbd,2f53-2f53:m1:3cc1," ++
  "2f54-2f54:m1:3ce0,2f55-2f55:m1:4116,2f56-2f56:m1:42d4,2f57-2f57:m1:42df,2f58-2f58:m1:42e3,2f59-2f59:m1:42e6,2f5a-2f5a:m1:42ed,2f5b-2f5b:m1:42fe,2f5c-2f5c:m1:42ff,2f5d-2f5d:m1:434f,2f5e-2f5e:m1:4426,2f5f-2f5f:m1:442a,2f60-2f60:m1:457c,2f61-2f61:m1:4585,2f62-2f62:m1:45b6,2f63-2f63:m1:45bc,2f64-2f64:m1:45c4,2f65-2f65:m1:45cb,2f66-2f66:m1:4625,2f67-2f67:m1:462b,2f68-2f68:m1:470e,2f69-2f69:m1:4714,2f6a-2f6a:m1:4744,2f6b-2f6b:m1:4754,2f6c-2f6c:m1:4782,2f6d-2f6d:m1:486e,2f6e-2f6e:m1:4874,2f6f-2f6f:m1:4884,2f70-2f70:m1:49ca,2f71-2f71:m1:4a47,2f72-2f72:m1:4a4c,2f73-2f73:m1:4b01,2f74-2f74:m1:4b57,2f75-2f75:m1:4b84,2f76-2f76:m1:4cfd,2f77-2f77:m1:4d81,2f78-2f78:m1:4fbe,2f79-2f79:m1:4fd8,2f7a-2f7a:m1:5010,2f7b-2f7b:m1:5042,2f7c-2f7c:m1:5085,2f7d-2f7d:m1:508f,2f7e-2f7e:m1:5094,2f7f-2f7f:m1:50b4,2f80-2f80:m1:50ff,2f81-2f81:m1:5108,2f82-2f82:m1:5261,2f83-2f83:m1:5267,2f84-2f84:m1:526f,2f85-2f85:m1:5277,2f86-2f86:m1:5286,2f87-2f87:m1:5294,2f88-2f88:m1:5297,2f89-2f89:m1:52e5,2f8a-2f8a:m1:52e8," ++
  "2f8b-2f8b:m1:52ed,2f8c-2f8c:m1:56c1,2f8d-2f8d:m1:56de,2f8e-2f8e:m1:58b2,2f8f-2f8f:m1:58bd,2f90-2f90:m1:58d3,2f91-2f91:m1:59ed,2f92-2f92:m1:59f9,2f93-2f93:m1:5a3f,2f94-2f94:m1:5a6c,2f95-2f95:m1:5ca2,2f96-2f96:m1:5cb0,2f97-2f97:m1:5cbe,2f98-2f98:m1:5ce0,2f99-2f99:m1:5d04,2f9a-2f9a:m1:5dca,2f9b-2f9b:m1:5dd5,2f9c-2f9c:m1:5e17,2f9d-2f9d:m1:5f0e,2f9e-2f9e:m1:5f2c,2f9f-2f9f:m1:5ffc,2fa0-2fa0:m1:6010,2fa1-2fa1:m1:6014,2fa2-2fa2:m1:60ef,2fa3-2fa3:m1:61a6,2fa4-2fa4:m1:6222,2fa5-2fa5:m1:6227,2fa6-2fa6:m1:622b,2fa7-2fa7:m1:65d0,2fa8-2fa8:m1:65d8,2fa9-2fa9:m1:6673,2faa-2faa:m1:670c,2fab-2fab:m1:670e,2fac-2fac:m1:673c,2fad-2fad:m1:67a4,2fae-2fae:m1:67b0,2faf-2faf:m1:67b3,2fb0-2fb0:m1:67b9,2fb1-2fb1:m1:681a,2fb2-2fb2:m1:683b,2fb3-2fb3:m1:6840,2fb4-2fb4:m1:684d,2fb5-2fb5:m1:68f3,2fb6-2fb6:m1:6925,2fb7-2fb7:m1:6928,2fb8-2fb8:m1:69de,2fb9-2fb9:m1:69e0,2fba-2fba:m1:69f2,2fbb-2fbb:m1:6aed,2fbc-2fbc:m1:6b1c,2fbd-2fbd:m1:6b22,2fbe-2fbe:m1:6b67,2fbf-2fbf:m1:6b70,2fc0-2fc0:m1:6b72,2fc1-2fc1:m1:6b7b," ++
  "2fc2-2fc2:m1:6b98,2fc3-2fc3:m1:6d22,2fc4-2fc4:m1:6eb1,2fc5-2fc5:m1:6eba,2fc6-2fc6:m1:6edf,2fc7-2fc7:m1:6ef4,2fc8-2fc8:m1:6efb,2fc9-2fc9:m1:6f04,2fca-2fca:m1:6f07,2fcb-2fcb:m1:6f2e,2fcc-2fcc:m1:6f31,2fcd-2fcd:m1:6f41,2fce-2fce:m1:6f45,2fcf-2fcf:m1:6f51,2fd0-2fd0:m1:6f6b,2fd1-2fd1:m1:6f79,2fd2-2fd2:m1:6f80,2fd3-2fd3:m1:6fba,2fd4-2fd4:m1:6fc8,2fd5-2fd5:m1:6fcb,2fd6-2fff:x,3000-3000:m1:-2fe0,3002-3002:m1:-2fd4,3036-3036:m1:-24,3038-3038:m1:2309,3039-303a:m1:230b,3040-3040:x,3097-3098:x,309b-309b:s:20 3099,309c-309c:s:20 309a,309f-309f:s:3088 308a,30ff-30ff:s:30b3 30c8,3100-3104:x,3130-3130:x,3131-3132:m1:-2031,3133-3133:m1:-1f89,3134-3134:m1:-2032,3135-3136:m1:-1f89,3137-3139:m1:-2034,313a-313f:m1:-1f8a,3140-3140:m1:-2026,3141-3143:m1:-203b,3144-3144:m1:-2023,3145-314e:m1:-203c,314f-3163:m1:-1fee,3164-3164:i,3165-3166:m1:-2051,3167-3168:m1:-1fa0,3169-3169:m1:-1f9d,316a-316a:m1:-1f9c,316b-316b:m1:-1f98,316c-316c:m1:-1f95,316d-316d:m1:-1f94,316e-316e:m1:-2052,316f-316f:m1:-1f92," ++
  "3170-3170:m1:-1f91,3171-3172:m1:-2054,3173-3173:m1:-2053,3174-3175:m1:-2052,3176-3176:m1:-204f,3177-3177:m1:-204e,3178-317c:m1:-204d,317d-317d:m1:-204b,317e-317e:m1:-2048,317f-317f:m1:-203f,3180-3180:m1:-2039,3181-3181:m1:-2035,3182-3183:m1:-1f91,3184-3186:m1:-202d,3187-3188:m1:-2003,3189-3189:m1:-2001,318a-318b:m1:-1ff9,318c-318c:m1:-1ff8,318d-318d:m1:-1fef,318e-318e:m1:-1fed,318f-318f:x,3192-3192:m1:1c6e,3193-3193:m1:1cf9,3194-3194:m1:1c75,3195-3195:m1:2546,3196-3196:m1:1c74,3197-3197:m1:1c96,3198-3198:m1:1c73,3199-3199:m1:4399,319a-319a:m1:1cbf,319b-319b:m1:1c7e,319c-319c:m1:1c65,319d-319d:m1:278c,319e-319e:m1:2592,319f-319f:m1:1d1b,31e6-31ef:x,3200-3200:s:28 1100 29,3201-3201:s:28 1102 29,3202-3202:s:28 1103 29,3203-3203:s:28 1105 29,3204-3204:s:28 1106 29,3205-3205:s:28 1107 29,3206-3206:s:28 1109 29,3207-3207:s:28 110b 29,3208-3208:s:28 110c 29,3209-3209:s:28 110e 29,320a-320a:s:28 110f 29,320b-320b:s:28 1110 29,320c-320c:s:28 1111 29,320d-320d:s:28 1112 29,320e-320e:s:28 ac00 29," ++
  "320f-320f:s:28 b098 29,3210-3210:s:28 b2e4 29,3211-3211:s:28 b77c 29,3212-3212:s:28 b9c8 29,3213-3213:s:28 bc14 29,3214-3214:s:28 c0ac 29,3215-3215:s:28 c544 29,3216-3216:s:28 c790 29,3217-3217:s:28 cc28 29,3218-3218:s:28 ce74 29,3219-3219:s:28 d0c0 29,321a-321a:s:28 d30c 29,321b-321b:s:28 d558 29,321c-321c:s:28 c8fc 29,321d-321d:s:28 c624 c804 29,321e-321e:s:28 c624 d6c4 29,321f-321f:x,3220-3220:s:28 4e00 29,3221-3221:s:28 4e8c 29,3222-3222:s:28 4e09 29,3223-3223:s:28 56db 29,3224-3224:s:28 4e94 29,3225-3225:s:28 516d 29,3226-3226:s:28 4e03 29,3227-3227:s:28 516b 29,3228-3228:s:28 4e5d 29,3229-3229:s:28 5341 29,322a-322a:s:28 6708 29,322b-322b:s:28 706b 29,322c-322c:s:28 6c34 29,322d-322d:s:28 6728 29,322e-322e:s:28 91d1 29,322f-322f:s:28 571f 29,3230-3230:s:28 65e5 29,3231-3231:s:28 682a 29,3232-3232:s:28 6709 29,3233-3233:s:28 793e 29,3234-3234:s:28 540d 29,3235-3235:s:28 7279 29,3236-3236:s:28 8ca1 29,3237-3237:s:28 795d 29,3238-3238:s:28 52b4 29,3239-3239:s:28 4ee3 29," ++
  "323a-323a:s:28 547c 29,323b-323b:s:28 5b66 29,323c-323c:s:28 76e3 29,323d-323d:s:28 4f01 29,323e-323e:s:28 8cc7 29,323f-323f:s:28 5354 29,3240-3240:s:28 796d 29,3241-3241:s:28 4f11 29,3242-3242:s:28 81ea 29,3243-3243:s:28 81f3 29,3244-3244:m1:230b,3245-3245:m1:2c37,3246-3246:m1:3341,3247-3247:m1:4948,3250-3250:s:70 74 65,3251-3251:s:32 31,3252-3252:s:32 32,3253-3253:s:32 33,3254-3254:s:32 34,3255-3255:s:32 35,3256-3256:s:32 36,3257-3257:s:32 37,3258-3258:s:32 38,3259-3259:s:32 39,325a-325a:s:33 30,325b-325b:s:33 31,325c-325c:s:33 32,325d-325d:s:33 33,325e-325e:s:33 34,325f-325f:s:33 35,3260-3260:m1:-2160,3261-3262:m1:-215f,3263-3265:m1:-215e,3266-3266:m1:-215d,3267-3268:m1:-215c,3269-326d:m1:-215b,326e-326e:m1:7992,326f-326f:m1:7e29,3270-3270:m1:8074,3271-3271:m1:850b,3272-3272:m1:8756,3273-3273:m1:89a1,3274-3274:m1:8e38,3275-3275:m1:92cf,3276-3276:m1:951a,3277-3277:m1:99b1,3278-3278:m1:9bfc,3279-3279:m1:9e47,327a-327a:m1:a092,327b-327b:m1:a2dd,327c-327c:s:cc38 ace0," ++
  "327d-327d:s:c8fc c758,327e-327e:m1:9432,3280-3280:m1:1b80,3281-3281:m1:1c0b,3282-3282:m1:1b87,3283-3283:m1:2458,3284-3284:m1:1c10,3285-3285:m1:1ee8,3286-3286:m1:1b7d,3287-3287:m1:1ee4,3288-3288:m1:1bd5,3289-3289:m1:20b8,328a-328a:m1:347e,328b-328b:m1:3de0,328c-328c:m1:39a8,328d-328d:m1:349b,328e-328e:m1:5f43,328f-328f:m1:2490,3290-3290:m1:3355,3291-3291:m1:3599,3292-3292:m1:3477,3293-3293:m1:46ab,3294-3294:m1:2179,3295-3295:m1:3fe4,3296-3296:m1:5a0b,3297-3297:m1:46c6,3298-3298:m1:201c,3299-3299:m1:473f,329a-329a:m1:429d,329b-329b:m1:26d8,329c-329c:m1:5dcd,329d-329d:m1:1e8d,329e-329e:m1:20d2,329f-329f:m1:3a49,32a0-32a0:m1:6565,32a1-32a1:m1:1c70,32a2-32a2:m1:1ef7,32a3-32a3:m1:38c0,32a4-32a4:m1:1b66,32a5-32a5:m1:1b88,32a6-32a6:m1:1b65,32a7-32a7:m1:2b3f,32a8-32a8:m1:214b,32a9-32a9:m1:2092,32aa-32aa:m1:28ed,32ab-32ab:m1:28bb,32ac-32ac:m1:4437,32ad-32ad:m1:1c54,32ae-32ae:m1:5a19,32af-32af:m1:20a5,32b0-32b0:m1:266c,32b1-32b1:s:33 36,32b2-32b2:s:33 37,32b3-32b3:s:33 38,32b4-32b4:s:33 39," ++
  "32b5-32b5:s:34 30,32b6-32b6:s:34 31,32b7-32b7:s:34 32,32b8-32b8:s:34 33,32b9-32b9:s:34 34,32ba-32ba:s:34 35,32bb-32bb:s:34 36,32bc-32bc:s:34 37,32bd-32bd:s:34 38,32be-32be:s:34 39,32bf-32bf:s:35 30,32c0-32c0:s:31 6708,32c1-32c1:s:32 6708,32c2-32c2:s:33 6708,32c3-32c3:s:34 6708,32c4-32c4:s:35 6708,32c5-32c5:s:36 6708,32c6-32c6:s:37 6708,32c7-32c7:s:38 6708,32c8-32c8:s:39 6708,32c9-32c9:s:31 30 6708,32ca-32ca:s:31 31 6708,32cb-32cb:s:31 32 6708,32cc-32cc:s:68 67,32cd-32cd:s:65 72 67,32ce-32ce:s:65 76,32cf-32cf:s:6c 74 64,32d0-32d0:m1:-22e,32d1-32d1:m1:-22d,32d2-32d2:m1:-22c,32d3-32d3:m1:-22b,32d4-32d5:m1:-22a,32d6-32d6:m1:-229,32d7-32d7:m1:-228,32d8-32d8:m1:-227,32d9-32d9:m1:-226,32da-32da:m1:-225,32db-32db:m1:-224,32dc-32dc:m1:-223,32dd-32dd:m1:-222,32de-32de:m1:-221,32df-32df:m1:-220,32e0-32e0:m1:-21f,32e1-32e1:m1:-21d,32e2-32e2:m1:-21c,32e3-32e3:m1:-21b,32e4-32e9:m1:-21a,32ea-32ea:m1:-218,32eb-32eb:m1:-216,32ec-32ec:m1:-214,32ed-32ed:m1:-212,32ee-32f2:m1:-210,32f3-32f3:m1:-20f," ++
  "32f4-32f4:m1:-20e,32f5-32fa:m1:-20d,32fb-32fe:m1:-20c,32ff-32ff:s:4ee4 548c,3300-3300:s:30a2 30d1 30fc 30c8,3301-3301:s:30a2 30eb 30d5 30a1,3302-3302:s:30a2 30f3 30da 30a2,3303-3303:s:30a2 30fc 30eb,3304-3304:s:30a4 30cb 30f3 30b0,3305-3305:s:30a4 30f3 30c1,3306-3306:s:30a6 30a9 30f3,3307-3307:s:30a8 30b9 30af 30fc 30c9,3308-3308:s:30a8 30fc 30ab 30fc,3309-3309:s:30aa 30f3 30b9,330a-330a:s:30aa 30fc 30e0,330b-330b:s:30ab 30a4 30ea,330c-330c:s:30ab 30e9 30c3 30c8,330d-330d:s:30ab 30ed 30ea 30fc,330e-330e:s:30ac 30ed 30f3,330f-330f:s:30ac 30f3 30de,3310-3310:s:30ae 30ac,3311-3311:s:30ae 30cb 30fc,3312-3312:s:30ad 30e5 30ea 30fc,3313-3313:s:30ae 30eb 30c0 30fc,3314-3314:s:30ad 30ed,3315-3315:s:30ad 30ed 30b0 30e9 30e0,3316-3316:s:30ad 30ed 30e1 30fc 30c8 30eb,3317-3317:s:30ad 30ed 30ef 30c3 30c8,3318-3318:s:30b0 30e9 30e0,3319-3319:s:30b0 30e9 30e0 30c8 30f3,331a-331a:s:30af 30eb 30bc 30a4 30ed,331b-331b:s:30af 30ed 30fc 30cd,331c-331c:s:30b1 30fc 30b9,331d-331d:s:30b3 30eb 30ca," ++
  "331e-331e:s:30b3 30fc 30dd,331f-331f:s:30b5 30a4 30af 30eb,3320-3320:s:30b5 30f3 30c1 30fc 30e0,3321-3321:s:30b7 30ea 30f3 30b0,3322-3322:s:30bb 30f3 30c1,3323-3323:s:30bb 30f3 30c8,3324-3324:s:30c0 30fc 30b9,3325-3325:s:30c7 30b7,3326-3326:s:30c9 30eb,3327-3327:s:30c8 30f3,3328-3328:s:30ca 30ce,3329-3329:s:30ce 30c3 30c8,332a-332a:s:30cf 30a4 30c4,332b-332b:s:30d1 30fc 30bb 30f3 30c8,332c-332c:s:30d1 30fc 30c4,332d-332d:s:30d0 30fc 30ec 30eb,332e-332e:s:30d4 30a2 30b9 30c8 30eb,332f-332f:s:30d4 30af 30eb,3330-3330:s:30d4 30b3,3331-3331:s:30d3 30eb,3332-3332:s:30d5 30a1 30e9 30c3 30c9,3333-3333:s:30d5 30a3 30fc 30c8,3334-3334:s:30d6 30c3 30b7 30a7 30eb,3335-3335:s:30d5 30e9 30f3,3336-3336:s:30d8 30af 30bf 30fc 30eb,3337-3337:s:30da 30bd,3338-3338:s:30da 30cb 30d2,3339-3339:s:30d8 30eb 30c4,333a-333a:s:30da 30f3 30b9,333b-333b:s:30da 30fc 30b8,333c-333c:s:30d9 30fc 30bf,333d-333d:s:30dd 30a4 30f3 30c8,333e-333e:s:30dc 30eb 30c8,333f-333f:s:30db 30f3,3340-3340:s:30dd 30f3 30c9," ++
  "3341-3341:s:30db 30fc 30eb,3342-3342:s:30db 30fc 30f3,3343-3343:s:30de 30a4 30af 30ed,3344-3344:s:30de 30a4 30eb,3345-3345:s:30de 30c3 30cf,3346-3346:s:30de 30eb 30af,3347-3347:s:30de 30f3 30b7 30e7 30f3,3348-3348:s:30df 30af 30ed 30f3,3349-3349:s:30df 30ea,334a-334a:s:30df 30ea 30d0 30fc 30eb,334b-334b:s:30e1 30ac,334c-334c:s:30e1 30ac 30c8 30f3,334d-334d:s:30e1 30fc 30c8 30eb,334e-334e:s:30e4 30fc 30c9,334f-334f:s:30e4 30fc 30eb,3350-3350:s:30e6 30a2 30f3,3351-3351:s:30ea 30c3 30c8 30eb,3352-3352:s:30ea 30e9,3353-3353:s:30eb 30d4 30fc,3354-3354:s:30eb 30fc 30d6 30eb,3355-3355:s:30ec 30e0,3356-3356:s:30ec 30f3 30c8 30b2 30f3,3357-3357:s:30ef 30c3 30c8,3358-3358:s:30 70b9,3359-3359:s:31 70b9,335a-335a:s:32 70b9,335b-335b:s:33 70b9,335c-335c:s:34 70b9,335d-335d:s:35 70b9,335e-335e:s:36 70b9,335f-335f:s:37 70b9,3360-3360:s:38 70b9,3361-3361:s:39 70b9,3362-3362:s:31 30 70b9,3363-3363:s:31 31 70b9,3364-3364:s:31 32 70b9,3365-3365:s:31 33 70b9,3366-3366:s:31 34 70b9,3367-3367:s:31 35 70b9," ++
  "3368-3368:s:31 36 70b9,3369-3369:s:31 37 70b9,336a-336a:s:31 38 70b9,336b-336b:s:31 39 70b9,336c-336c:s:32 30 70b9,336d-336d:s:32 31 70b9,336e-336e:s:32 32 70b9,336f-336f:s:32 33 70b9,3370-3370:s:32 34 70b9,3371-3371:s:68 70 61,3372-3372:s:64 61,3373-3373:s:61 75,3374-3374:s:62 61 72,3375-3375:s:6f 76,3376-3376:s:70 63,3377-3377:s:64 6d,3378-3378:s:64 6d 32,3379-3379:s:64 6d 33,337a-337a:s:69 75,337b-337b:s:5e73 6210,337c-337c:s:662d 548c,337d-337d:s:5927 6b63,337e-337e:s:660e 6cbb,337f-337f:s:682a 5f0f 4f1a 793e,3380-3380:s:70 61,3381-3381:s:6e 61,3382-3382:s:3bc 61,3383-3383:s:6d 61,3384-3384:s:6b 61,3385-3385:s:6b 62,3386-3386:s:6d 62,3387-3387:s:67 62,3388-3388:s:63 61 6c,3389-3389:s:6b 63 61 6c,338a-338a:s:70 66,338b-338b:s:6e 66,338c-338c:s:3bc 66,338d-338d:s:3bc 67,338e-338e:s:6d 67,338f-338f:s:6b 67,3390-3390:s:68 7a,3391-3391:s:6b 68 7a,3392-3392:s:6d 68 7a,3393-3393:s:67 68 7a,3394-3394:s:74 68 7a,3395-3395:s:3bc 6c,3396-3396:s:6d 6c,3397-3397:s:64 6c,3398-3398:s:6b 6c," ++
  "3399-3399:s:66 6d,339a-339a:s:6e 6d,339b-339b:s:3bc 6d,339c-339c:s:6d 6d,339d-339d:s:63 6d,339e-339e:s:6b 6d,339f-339f:s:6d 6d 32,33a0-33a0:s:63 6d 32,33a1-33a1:s:6d 32,33a2-33a2:s:6b 6d 32,33a3-33a3:s:6d 6d 33,33a4-33a4:s:63 6d 33,33a5-33a5:s:6d 33,33a6-33a6:s:6b 6d 33,33a7-33a7:s:6d 2215 73,33a8-33a8:s:6d 2215 73 32,33a9-33a9:s:70 61,33aa-33aa:s:6b 70 61,33ab-33ab:s:6d 70 61,33ac-33ac:s:67 70 61,33ad-33ad:s:72 61 64,33ae-33ae:s:72 61 64 2215 73,33af-33af:s:72 61 64 2215 73 32,33b0-33b0:s:70 73,33b1-33b1:s:6e 73,33b2-33b2:s:3bc 73,33b3-33b3:s:6d 73,33b4-33b4:s:70 76,33b5-33b5:s:6e 76,33b6-33b6:s:3bc 76,33b7-33b7:s:6d 76,33b8-33b8:s:6b 76,33b9-33b9:s:6d 76,33ba-33ba:s:70 77,33bb-33bb:s:6e 77,33bc-33bc:s:3bc 77,33bd-33bd:s:6d 77,33be-33be:s:6b 77,33bf-33bf:s:6d 77,33c0-33c0:s:6b 3c9,33c1-33c1:s:6d 3c9,33c2-33c2:x,33c3-33c3:s:62 71,33c4-33c4:s:63 63,33c5-33c5:s:63 64,33c6-33c6:s:63 2215 6b 67,33c7-33c7:x,33c8-33c8:s:64 62,33c9-33c9:s:67 79,33ca-33ca:s:68 61,33cb-33cb:s:68 70," ++
  "33cc-33cc:s:69 6e,33cd-33cd:s:6b 6b,33ce-33ce:s:6b 6d,33cf-33cf:s:6b 74,33d0-33d0:s:6c 6d,33d1-33d1:s:6c 6e,33d2-33d2:s:6c 6f 67,33d3-33d3:s:6c 78,33d4-33d4:s:6d 62,33d5-33d5:s:6d 69 6c,33d6-33d6:s:6d 6f 6c,33d7-33d7:s:70 68,33d8-33d8:x,33d9-33d9:s:70 70 6d,33da-33da:s:70 72,33db-33db:s:73 72,33dc-33dc:s:73 76,33dd-33dd:s:77 62,33de-33de:s:76 2215 6d,33df-33df:s:61 2215 6d,33e0-33e0:s:31 65e5,33e1-33e1:s:32 65e5,33e2-33e2:s:33 65e5,33e3-33e3:s:34 65e5,33e4-33e4:s:35 65e5,33e5-33e5:s:36 65e5,33e6-33e6:s:37 65e5,33e7-33e7:s:38 65e5,33e8-33e8:s:39 65e5,33e9-33e9:s:31 30 65e5,33ea-33ea:s:31 31 65e5,33eb-33eb:s:31 32 65e5,33ec-33ec:s:31 33 65e5,33ed-33ed:s:31 34 65e5,33ee-33ee:s:31 35 65e5,33ef-33ef:s:31 36 65e5,33f0-33f0:s:31 37 65e5,33f1-33f1:s:31 38 65e5,33f2-33f2:s:31 39 65e5,33f3-33f3:s:32 30 65e5,33f4-33f4:s:32 31 65e5,33f5-33f5:s:32 32 65e5,33f6-33f6:s:32 33 65e5,33f7-33f7:s:32 34 65e5,33f8-33f8:s:32 35 65e5,33f9-33f9:s:32 36 65e5,33fa-33fa:s:32 37 65e5,33fb-33fb:s:32 38 65e5," ++
  "33fc-33fc:s:32 39 65e5,33fd-33fd:s:33 30 65e5,33fe-33fe:s:33 31 65e5,33ff-33ff:s:67 61 6c,a48d-a48f:x,a4c7-a4cf:x,a62c-a63f:x,a640-a66c:m2:1,a680-a69a:m2:1,a69c-a69c:m1:-a252,a69d-a69d:m1:-a251,a6f8-a6ff:x,a722-a72e:m2:1,a732-a76e:m2:1,a770-a770:m1:-1,a779-a77b:m2:1,a77d-a77d:m1:-8a04,a77e-a786:m2:1,a78b-a78b:m1:1,a78d-a78d:m1:-a528,a790-a792:m2:1,a796-a7a8:m2:1,a7aa-a7aa:m1:-a544,a7ab-a7ab:m1:-a54f,a7ac-a7ac:m1:-a54b,a7ad-a7ad:m1:-a541,a7ae-a7ae:m1:-a544,a7b0-a7b0:m1:-a512,a7b1-a7b1:m1:-a52a,a7b2-a7b2:m1:-a515,a7b3-a7b3:m1:3a0,a7b4-a7c2:m2:1,a7c4-a7c4:m1:-30,a7c5-a7c5:m1:-a543,a7c6-a7c6:m1:-8a38,a7c7-a7c9:m2:1,a7cb-a7cb:m1:-a567,a7cc-a7da:m2:1,a7dc-a7dc:m1:-a641,a7dd-a7f0:x,a7f1-a7f1:m1:-a77e,a7f2-a7f2:m1:-a78f,a7f3-a7f3:m1:-a78d,a7f4-a7f4:m1:-a783,a7f5-a7f5:m1:1,a7f8-a7f8:m1:-a6d1,a7f9-a7f9:m1:-a6a6,a82d-a82f:x,a83a-a83f:x,a878-a87f:x,a8c6-a8cd:x,a8da-a8df:x,a954-a95e:x,a97d-a97f:x,a9ce-a9ce:x,a9da-a9dd:x,a9ff-a9ff:x,aa37-aa3f:x,aa4e-aa4f:x,aa5a-aa5b:x,aac3-aada:x,aaf7-ab00:x," ++
  "ab07-ab08:x,ab0f-ab10:x,ab17-ab1f:x,ab27-ab27:x,ab2f-ab2f:x,ab5c-ab5c:m1:-435,ab5d-ab5d:m1:-26,ab5e-ab5e:m1:-a8f3,ab5f-ab5f:m1:-d,ab69-ab69:m1:-a8dc,ab6c-ab6f:x,ab70-abbf:m1:-97d0,abee-abef:x,abfa-abff:x,d7a4-d7af:x,d7c7-d7ca:x,d7fc-f8ff:x,f900-f900:m1:-6cb8,f901-f901:m1:-920d,f902-f902:m1:-6a38,f903-f903:m1:-6c3b,f904-f904:m1:-8a33,f905-f905:m1:-aad3,f906-f906:m1:-a521,f907-f908:s:9f9c,f909-f909:m1:-9fb8,f90a-f90a:m1:-6739,f90b-f90b:m1:-a384,f90c-f90c:m1:-9fc4,f90d-f90d:m1:-9717,f90e-f90e:m1:-82a5,f90f-f90f:m1:-798a,f910-f910:m1:-72d1,f911-f911:m1:-7157,f912-f912:m1:-701a,f913-f913:m1:-6884,f914-f914:m1:-8f12,f915-f915:m1:-8bfa,f916-f916:m1:-883d,f917-f917:m1:-8539,f918-f918:m1:-74db,f919-f919:m1:-67af,f91a-f91a:m1:-5f29,f91b-f91b:m1:-aa99,f91c-f91c:m1:-a5a7,f91d-f91d:m1:-8e19,f91e-f91e:m1:-8703,f91f-f91f:m1:-72f2,f920-f920:m1:-5b02,f921-f921:m1:-9bd1,f922-f922:m1:-8937,f923-f923:m1:-7356,f924-f924:m1:-6fc0,f925-f925:m1:-965c,f926-f926:m1:-774e,f927-f927:m1:-7108,f928-f928:m1:-9a5e," ++
  "f929-f929:m1:-9212,f92a-f92a:m1:-8bc0,f92b-f92b:m1:-862f,f92c-f92c:m1:-685e,f92d-f92d:m1:-a9a7,f92e-f92e:m1:-a777,f92f-f92f:m1:-a651,f930-f930:m1:-946c,f931-f931:m1:-8e5e,f932-f932:m1:-8722,f933-f933:m1:-824c,f934-f934:m1:-7933,f935-f935:m1:-732f,f936-f936:m1:-72da,f937-f937:m1:-6b48,f938-f938:m1:-6206,f939-f939:m1:-5dca,f93a-f93a:m1:-5b40,f93b-f93b:m1:-80af,f93c-f93c:m1:-7fbd,f93d-f93d:m1:-7b9d,f93e-f93e:m1:-7575,f93f-f93f:m1:-663b,f940-f940:m1:-5ac1,f941-f941:m1:-6e6b,f942-f942:m1:-a063,f943-f943:m1:-9a3f,f944-f944:m1:-7ce4,f945-f945:m1:-78c7,f946-f946:m1:-86e4,f947-f947:m1:-807d,f948-f948:m1:-6c86,f949-f949:m1:-6252,f94a-f94a:m1:-a072,f94b-f94b:m1:-9ce9,f94c-f94c:m1:-8f39,f94d-f94d:m1:-8b73,f94e-f94e:m1:-8a3f,f94f-f94f:m1:-7c20,f950-f950:m1:-7b19,f951-f951:m1:-6306,f952-f952:m1:-a680,f953-f953:m1:-78c8,f954-f954:m1:-a778,f955-f955:m1:-a789,f956-f956:m1:-7f3a,f957-f957:m1:-7b99,f958-f958:m1:-7567,f959-f959:m1:-62e4,f95a-f95a:m1:-6dda,f95b-f95b:m1:-968c,f95c-f95c:m1:-8f5a," ++
  "f95d-f95d:m1:-6e5f,f95e-f95e:m1:-ab25,f95f-f95f:m1:-9d78,f960-f960:m1:-994e,f961-f961:m1:-85da,f962-f962:m1:-83f2,f963-f963:m1:-a64c,f964-f964:m1:-8069,f965-f965:m1:-a9a6,f966-f966:m1:-99bd,f967-f967:m1:-ab5a,f968-f968:m1:-8c9c,f969-f969:m1:-93f1,f96a-f96a:m1:-7c48,f96b-f96b:m1:-a5a8,f96c-f96c:m1:-a10e,f96d-f96d:m1:-826c,f96e-f96e:m1:-7525,f96f-f96f:m1:-6ec5,f970-f970:m1:-8db6,f971-f971:m1:-69c1,f972-f972:m1:-8cea,f973-f973:m1:-9675,f974-f974:m1:-768f,f975-f975:m1:-95d5,f976-f976:m1:-8411,f977-f977:m1:-aac9,f978-f978:m1:-a80f,f979-f979:m1:-a7b0,f97a-f97a:m1:-90f9,f97b-f97b:m1:-7c94,f97c-f97c:m1:-770d,f97d-f97d:m1:-6eab,f97e-f97e:m1:-67af,f97f-f97f:m1:-a68a,f980-f980:m1:-a53e,f981-f981:m1:-a00e,f982-f982:m1:-9a96,f983-f983:m1:-93be,f984-f984:m1:-8986,f985-f985:m1:-805b,f986-f986:m1:-63d9,f987-f987:m1:-5f1d,f988-f988:m1:-5af1,f989-f989:m1:-5abb,f98a-f98a:m1:-a6ef,f98b-f98b:m1:-92c5,f98c-f98c:m1:-8e15,f98d-f98d:m1:-6a2b,f98e-f98e:m1:-9b1a,f98f-f98f:m1:-97ff,f990-f990:m1:-9790," ++
  "f991-f991:m1:-94f7,f992-f992:m1:-8a6f,f993-f993:m1:-884a,f994-f994:m1:-850b,f995-f995:m1:-7fcb,f996-f996:m1:-7ba2,f997-f997:m1:-7928,f998-f998:m1:-6a72,f999-f999:m1:-74ab,f99a-f99a:m1:-6977,f99b-f99b:m1:-6651,f99c-f99c:m1:-a785,f99d-f99d:m1:-a6fa,f99e-f99e:m1:-a4e1,f99f-f99f:m1:-88d7,f9a0-f9a0:m1:-70de,f9a1-f9a1:m1:-6ef7,f9a2-f9a2:m1:-9ad9,f9a3-f9a3:m1:-99ae,f9a4-f9a4:m1:-9629,f9a5-f9a5:m1:-8df7,f9a6-f9a6:m1:-7d68,f9a7-f9a7:m1:-8632,f9a8-f9a8:m1:-aac4,f9a9-f9a9:m1:-a2b0,f9aa-f9aa:m1:-9dc3,f9ab-f9ab:m1:-9bf1,f9ac-f9ac:m1:-9990,f9ad-f9ad:m1:-85fb,f9ae-f9ae:m1:-8545,f9af-f9af:m1:-7a15,f9b0-f9b0:m1:-796a,f9b1-f9b1:m1:-677d,f9b2-f9b2:m1:-62bc,f9b3-f9b3:m1:-626b,f9b4-f9b4:m1:-619c,f9b5-f9b5:m1:-aa2a,f9b6-f9b6:m1:-8008,f9b7-f9b7:m1:-6803,f9b8-f9b8:m1:-6300,f9b9-f9b9:m1:-98d8,f9ba-f9ba:m1:-ab34,f9bb-f9bb:m1:-a8e1,f9bc-f9bc:m1:-9dce,f9bd-f9bd:m1:-9d7e,f9be-f9be:m1:-9425,f9bf-f9bf:m1:-8fbd,f9c0-f9c0:m1:-87f2,f9c1-f9c1:m1:-837f,f9c2-f9c2:m1:-74c6,f9c3-f9c3:m1:-6947,f9c4-f9c4:m1:-5a37," ++
  "f9c5-f9c5:m1:-933d,f9c6-f9c6:m1:-6398,f9c7-f9c7:m1:-a73e,f9c8-f9c8:m1:-924d,f9c9-f9c9:m1:-91d6,f9ca-f9ca:m1:-8c89,f9cb-f9cb:m1:-8b2f,f9cc-f9cc:m1:-85c3,f9cd-f9cd:m1:-8474,f9ce-f9ce:m1:-8163,f9cf-f9cf:m1:-7cbf,f9d0-f9d0:m1:-6172,f9d1-f9d1:m1:-a864,f9d2-f9d2:m1:-97a4,f9d3-f9d3:m1:-635b,f9d4-f9d4:m1:-a9a9,f9d5-f9d5:m1:-9cbc,f9d6-f9d6:m1:-8bec,f9d7-f9d7:m1:-6aad,f9d8-f9d8:m1:-9a4d,f9d9-f9d9:m1:-9895,f9da-f9da:m1:-91c3,f9db-f9db:m1:-8654,f9dc-f9dc:m1:-6356,f9dd-f9dd:m1:-a7b4,f9de-f9de:m1:-a5cf,f9df-f9df:m1:-9d7a,f9e0-f9e0:m1:-93cd,f9e1-f9e1:m1:-9293,f9e2-f9e2:m1:-913a,f9e3-f9e3:m1:-8cfe,f9e4-f9e4:m1:-85de,f9e5-f9e5:m1:-8403,f9e6-f9e6:m1:-7a6d,f9e7-f9e7:m1:-7118,f9e8-f9e8:m1:-7107,f9e9-f9e9:m1:-681d,f9ea-f9ea:m1:-6308,f9eb-f9eb:m1:-a6ac,f9ec-f9ec:m1:-8b32,f9ed-f9ed:m1:-a5d0,f9ee-f9ee:m1:-881e,f9ef-f9ef:m1:-8557,f9f0-f9f0:m1:-73f6,f9f1-f9f1:m1:-634e,f9f2-f9f2:m1:-5d9b,f9f3-f9f3:m1:-5b54,f9f4-f9f4:m1:-925d,f9f5-f9f5:m1:-8c2a,f9f6-f9f6:m1:-780e,f9f7-f9f7:m1:-7f2c,f9f8-f9f8:m1:-7ed8," ++
  "f9f9-f9f9:m1:-7d67,f9fa-f9fa:m1:-873a,f9fb-f9fb:m1:-8962,f9fc-f9fc:m1:-6ea4,f9fd-f9fd:m1:-ab3d,f9fe-f9fe:m1:-76c8,f9ff-f9ff:m1:-a7c5,fa00-fa00:m1:-a7f9,fa01-fa01:m1:-9b5b,fa02-fa02:m1:-972f,fa03-fa03:m1:-7d2d,fa04-fa04:m1:-9e7f,fa05-fa05:m1:-8ce7,fa06-fa06:m1:-9352,fa07-fa07:m1:-6acc,fa08-fa08:m1:-71bc,fa09-fa09:m1:-63bc,fa0a-fa0a:m1:-707f,fa0b-fa0b:m1:-9b38,fa0c-fa0c:m1:-a8cc,fa0d-fa0d:m1:-a44d,fa10-fa10:m1:-a1b6,fa12-fa12:m1:-939e,fa15-fa15:m1:-a837,fa16-fa16:m1:-86ec,fa17-fa17:m1:-834d,fa18-fa18:m1:-80dc,fa19-fa19:m1:-80bb,fa1a-fa1a:m1:-80b5,fa1b-fa1b:m1:-808c,fa1c-fa1c:m1:-62c6,fa1d-fa1d:m1:-7d5f,fa1e-fa1e:m1:-7a61,fa20-fa20:m1:-740e,fa22-fa22:m1:-6f2a,fa25-fa25:m1:-69ed,fa26-fa26:m1:-6929,fa2a-fa2a:m1:-613b,fa2b-fa2b:m1:-612f,fa2c-fa2c:m1:-6104,fa2d-fa2d:m1:-5c79,fa2e-fa2e:m1:-6950,fa2f-fa2f:m1:-6378,fa30-fa30:m1:-aa82,fa31-fa31:m1:-a94a,fa32-fa32:m1:-a8e5,fa33-fa33:m1:-a76a,fa34-fa34:m1:-a750,fa35-fa35:m1:-a6e4,fa36-fa36:m1:-a499,fa37-fa37:m1:-a431,fa38-fa38:m1:-a3d0," ++
  "fa39-fa39:m1:-a1f9,fa3a-fa3a:m1:-a192,fa3b-fa3b:m1:-9dd7,fa3c-fa3c:m1:-9dce,fa3d-fa3d:m1:-99a9,fa3e-fa3e:m1:-98d6,fa3f-fa3f:m1:-98b1,fa40-fa40:m1:-984e,fa41-fa41:m1:-94f2,fa42-fa42:m1:-9460,fa43-fa43:m1:-93b2,fa44-fa44:m1:-91bf,fa45-fa45:m1:-8cce,fa46-fa46:m1:-8c2c,fa47-fa47:m1:-8b25,fa48-fa48:m1:-88da,fa49-fa49:m1:-881e,fa4a-fa4a:m1:-8628,fa4b-fa4b:m1:-81ba,fa4c-fa4c:m1:-810e,fa4d-fa4d:m1:-8104,fa4e-fa4e:m1:-8106,fa4f-fa4f:m1:-80ff,fa50-fa50:m1:-80fa,fa51-fa51:m1:-80f4,fa52-fa53:m1:-80c5,fa54-fa54:m1:-8014,fa55-fa55:m1:-7fd4,fa56-fa56:m1:-7e96,fa57-fa57:m1:-7c63,fa58-fa58:m1:-7c4f,fa59-fa59:m1:-7c18,fa5a-fa5a:m1:-7ae8,fa5b-fa5b:m1:-7a56,fa5c-fa5c:m1:-786f,fa5d-fa5e:s:8279,fa5f-fa5f:m1:-7608,fa60-fa60:m1:-7150,fa61-fa61:m1:-70cb,fa62-fa62:m1:-6f61,fa63-fa63:m1:-6f2a,fa64-fa64:m1:-6d91,fa65-fa65:m1:-6d5d,fa66-fa66:m1:-6ab0,fa67-fa67:m1:-6a2f,fa68-fa68:m1:-6385,fa69-fa69:m1:-626a,fa6a-fa6a:m1:-622f,fa6b-fa6b:m1:-99f6,fa6c-fa6c:m1:14882,fa6d-fa6d:m1:-7855,fa6e-fa6f:x,fa70-fa70:m1:-ac4a," ++
  "fa71-fa71:m1:-a8bc,fa72-fa72:m1:-a90a,fa73-fa73:m1:-aaf3,fa74-fa74:m1:-a92f,fa75-fa75:m1:-a8f5,fa76-fa76:m1:-a7af,fa77-fa77:m1:-a77d,fa78-fa78:m1:-a4db,fa79-fa79:m1:-a524,fa7a-fa7a:m1:-a4e1,fa7b-fa7b:m1:-a499,fa7c-fa7c:m1:-a222,fa7d-fa7d:m1:-a1ca,fa7e-fa7e:m1:-a13a,fa7f-fa7f:m1:-a12b,fa80-fa80:m1:-a01e,fa81-fa81:m1:-9f59,fa82-fa82:m1:-9bb0,fa83-fa83:m1:-9baa,fa84-fa84:m1:-9b1b,fa85-fa85:m1:-9ad8,fa86-fa86:m1:-99ae,fa87-fa87:m1:-9939,fa88-fa88:m1:-9980,fa89-fa89:m1:-98fb,fa8a-fa8a:m1:-992a,fa8b-fa8b:m1:-9899,fa8c-fa8c:m1:-9858,fa8d-fa8d:m1:-96c9,fa8e-fa8e:m1:-9672,fa8f-fa8f:m1:-963d,fa90-fa90:m1:-953a,fa91-fa91:m1:-941d,fa92-fa92:m1:-937b,fa93-fa93:m1:-9378,fa94-fa94:m1:-933e,fa95-fa95:m1:-8f1c,fa96-fa96:m1:-8edc,fa97-fa97:m1:-8d56,fa98-fa98:m1:-8bbd,fa99-fa99:m1:-8bce,fa9a-fa9a:m1:-8b78,fa9b-fa9b:m1:-8a7d,fa9c-fa9c:m1:-892e,fa9d-fa9d:m1:-82f6,fa9e-fa9e:m1:-8869,fa9f-fa9f:m1:-87f0,faa0-faa0:m1:-8776,faa1-faa1:m1:-8630,faa2-faa2:m1:-859c,faa3-faa3:m1:-8568,faa4-faa4:m1:-8487," ++
  "faa5-faa5:m1:-8486,faa6-faa6:m1:-83dc,faa7-faa7:m1:-83cc,faa8-faa8:m1:-83b4,faa9-faa9:m1:-835f,faaa-faaa:m1:-836a,faab-faab:m1:-81df,faac-faac:m1:-7ffb,faad-faad:m1:-7eed,faae-faae:m1:-7e33,faaf-faaf:m1:-7d54,fab0-fab0:m1:-7cbc,fab1-fab1:m1:-7b73,fab2-fab2:m1:-7aad,fab3-fab3:m1:-7761,fab4-fab4:m1:-76c5,fab5-fab5:m1:-733c,fab6-fab6:m1:-7175,fab7-fab7:m1:-7131,fab8-fab8:m1:-7122,fab9-fab9:m1:-6ffa,faba-faba:m1:-6fc2,fabb-fabb:m1:-6ff0,fabc-fabc:m1:-6fbb,fabd-fabd:m1:-6fbf,fabe-fabe:m1:-6fd1,fabf-fabf:m1:-6f86,fac0-fac0:m1:-6f36,fac1-fac1:m1:-6db9,fac2-fac2:m1:-6b8a,fac3-fac3:m1:-6a51,fac4-fac4:m1:-692b,fac5-fac5:m1:-684f,fac6-fac6:m1:-644a,fac7-fac7:m1:-63e4,fac8-fac8:m1:-6372,fac9-fac9:m1:-62ee,faca-faca:m1:-62cb,facb-facb:m1:-62c0,facc-facc:m1:-6291,facd-facd:m1:-5fbb,face-face:m1:-5b32,facf-facf:m1:12d7b,fad0-fad0:m1:12d74,fad1-fad1:m1:13904,fad2-fad2:m1:-bf35,fad3-fad3:m1:-babb,fad4-fad4:m1:-ba9b,fad5-fad5:m1:15774,fad6-fad6:m1:161fa,fad7-fad7:m1:183fc,fad8-fad8:m1:-5b95," ++
  "fad9-fad9:m1:-5b4b,fada-faff:x,fb00-fb00:s:66 66,fb01-fb01:s:66 69,fb02-fb02:s:66 6c,fb03-fb03:s:66 66 69,fb04-fb04:s:66 66 6c,fb05-fb06:s:73 74,fb07-fb12:x,fb13-fb13:s:574 576,fb14-fb14:s:574 565,fb15-fb15:s:574 56b,fb16-fb16:s:57e 576,fb17-fb17:s:574 56d,fb18-fb1c:x,fb1d-fb1d:s:5d9 5b4,fb1f-fb1f:s:5f2 5b7,fb20-fb20:m1:-f53e,fb21-fb21:m1:-f551,fb22-fb23:m1:-f54f,fb24-fb26:m1:-f549,fb27-fb27:m1:-f53f,fb28-fb28:m1:-f53e,fb29-fb29:m1:-fafe,fb2a-fb2a:s:5e9 5c1,fb2b-fb2b:s:5e9 5c2,fb2c-fb2c:s:5e9 5bc 5c1,fb2d-fb2d:s:5e9 5bc 5c2,fb2e-fb2e:s:5d0 5b7,fb2f-fb2f:s:5d0 5b8,fb30-fb30:s:5d0 5bc,fb31-fb31:s:5d1 5bc,fb32-fb32:s:5d2 5bc,fb33-fb33:s:5d3 5bc,fb34-fb34:s:5d4 5bc,fb35-fb35:s:5d5 5bc,fb36-fb36:s:5d6 5bc,fb37-fb37:x,fb38-fb38:s:5d8 5bc,fb39-fb39:s:5d9 5bc,fb3a-fb3a:s:5da 5bc,fb3b-fb3b:s:5db 5bc,fb3c-fb3c:s:5dc 5bc,fb3d-fb3d:x,fb3e-fb3e:s:5de 5bc,fb3f-fb3f:x,fb40-fb40:s:5e0 5bc,fb41-fb41:s:5e1 5bc,fb42-fb42:x,fb43-fb43:s:5e3 5bc,fb44-fb44:s:5e4 5bc,fb45-fb45:x,fb46-fb46:s:5e6 5bc," ++
  "fb47-fb47:s:5e7 5bc,fb48-fb48:s:5e8 5bc,fb49-fb49:s:5e9 5bc,fb4a-fb4a:s:5ea 5bc,fb4b-fb4b:s:5d5 5b9,fb4c-fb4c:s:5d1 5bf,fb4d-fb4d:s:5db 5bf,fb4e-fb4e:s:5e4 5bf,fb4f-fb4f:s:5d0 5dc,fb50-fb51:s:671,fb52-fb55:s:67b,fb56-fb59:s:67e,fb5a-fb5d:s:680,fb5e-fb61:s:67a,fb62-fb65:s:67f,fb66-fb69:s:679,fb6a-fb6d:s:6a4,fb6e-fb71:s:6a6,fb72-fb75:s:684,fb76-fb79:s:683,fb7a-fb7d:s:686,fb7e-fb81:s:687,fb82-fb83:s:68d,fb84-fb85:s:68c,fb86-fb87:s:68e,fb88-fb89:s:688,fb8a-fb8b:s:698,fb8c-fb8d:s:691,fb8e-fb91:s:6a9,fb92-fb95:s:6af,fb96-fb99:s:6b3,fb9a-fb9d:s:6b1,fb9e-fb9f:s:6ba,fba0-fba3:s:6bb,fba4-fba5:s:6c0,fba6-fba9:s:6c1,fbaa-fbad:s:6be,fbae-fbaf:s:6d2,fbb0-fbb1:s:6d3,fbd3-fbd6:s:6ad,fbd7-fbd8:s:6c7,fbd9-fbda:s:6c6,fbdb-fbdc:s:6c8,fbdd-fbdd:s:6c7 674,fbde-fbdf:s:6cb,fbe0-fbe1:s:6c5,fbe2-fbe3:s:6c9,fbe4-fbe7:s:6d0,fbe8-fbe9:s:649,fbea-fbeb:s:626 627,fbec-fbed:s:626 6d5,fbee-fbef:s:626 648,fbf0-fbf1:s:626 6c7,fbf2-fbf3:s:626 6c6,fbf4-fbf5:s:626 6c8,fbf6-fbf8:s:626 6d0,fbf9-fbfb:s:626 649,fbfc-fbff:s:6cc," ++
  "fc00-fc00:s:626 62c,fc01-fc01:s:626 62d,fc02-fc02:s:626 645,fc03-fc03:s:626 649,fc04-fc04:s:626 64a,fc05-fc05:s:628 62c,fc06-fc06:s:628 62d,fc07-fc07:s:628 62e,fc08-fc08:s:628 645,fc09-fc09:s:628 649,fc0a-fc0a:s:628 64a,fc0b-fc0b:s:62a 62c,fc0c-fc0c:s:62a 62d,fc0d-fc0d:s:62a 62e,fc0e-fc0e:s:62a 645,fc0f-fc0f:s:62a 649,fc10-fc10:s:62a 64a,fc11-fc11:s:62b 62c,fc12-fc12:s:62b 645,fc13-fc13:s:62b 649,fc14-fc14:s:62b 64a,fc15-fc15:s:62c 62d,fc16-fc16:s:62c 645,fc17-fc17:s:62d 62c,fc18-fc18:s:62d 645,fc19-fc19:s:62e 62c,fc1a-fc1a:s:62e 62d,fc1b-fc1b:s:62e 645,fc1c-fc1c:s:633 62c,fc1d-fc1d:s:633 62d,fc1e-fc1e:s:633 62e,fc1f-fc1f:s:633 645,fc20-fc20:s:635 62d,fc21-fc21:s:635 645,fc22-fc22:s:636 62c,fc23-fc23:s:636 62d,fc24-fc24:s:636 62e,fc25-fc25:s:636 645,fc26-fc26:s:637 62d,fc27-fc27:s:637 645,fc28-fc28:s:638 645,fc29-fc29:s:639 62c,fc2a-fc2a:s:639 645,fc2b-fc2b:s:63a 62c,fc2c-fc2c:s:63a 645,fc2d-fc2d:s:641 62c,fc2e-fc2e:s:641 62d,fc2f-fc2f:s:641 62e,fc30-fc30:s:641 645,fc31-fc31:s:641 649," ++
  "fc32-fc32:s:641 64a,fc33-fc33:s:642 62d,fc34-fc34:s:642 645,fc35-fc35:s:642 649,fc36-fc36:s:642 64a,fc37-fc37:s:643 627,fc38-fc38:s:643 62c,fc39-fc39:s:643 62d,fc3a-fc3a:s:643 62e,fc3b-fc3b:s:643 644,fc3c-fc3c:s:643 645,fc3d-fc3d:s:643 649,fc3e-fc3e:s:643 64a,fc3f-fc3f:s:644 62c,fc40-fc40:s:644 62d,fc41-fc41:s:644 62e,fc42-fc42:s:644 645,fc43-fc43:s:644 649,fc44-fc44:s:644 64a,fc45-fc45:s:645 62c,fc46-fc46:s:645 62d,fc47-fc47:s:645 62e,fc48-fc48:s:645 645,fc49-fc49:s:645 649,fc4a-fc4a:s:645 64a,fc4b-fc4b:s:646 62c,fc4c-fc4c:s:646 62d,fc4d-fc4d:s:646 62e,fc4e-fc4e:s:646 645,fc4f-fc4f:s:646 649,fc50-fc50:s:646 64a,fc51-fc51:s:647 62c,fc52-fc52:s:647 645,fc53-fc53:s:647 649,fc54-fc54:s:647 64a,fc55-fc55:s:64a 62c,fc56-fc56:s:64a 62d,fc57-fc57:s:64a 62e,fc58-fc58:s:64a 645,fc59-fc59:s:64a 649,fc5a-fc5a:s:64a 64a,fc5b-fc5b:s:630 670,fc5c-fc5c:s:631 670,fc5d-fc5d:s:649 670,fc5e-fc5e:s:20 64c 651,fc5f-fc5f:s:20 64d 651,fc60-fc60:s:20 64e 651,fc61-fc61:s:20 64f 651,fc62-fc62:s:20 650 651," ++
  "fc63-fc63:s:20 651 670,fc64-fc64:s:626 631,fc65-fc65:s:626 632,fc66-fc66:s:626 645,fc67-fc67:s:626 646,fc68-fc68:s:626 649,fc69-fc69:s:626 64a,fc6a-fc6a:s:628 631,fc6b-fc6b:s:628 632,fc6c-fc6c:s:628 645,fc6d-fc6d:s:628 646,fc6e-fc6e:s:628 649,fc6f-fc6f:s:628 64a,fc70-fc70:s:62a 631,fc71-fc71:s:62a 632,fc72-fc72:s:62a 645,fc73-fc73:s:62a 646,fc74-fc74:s:62a 649,fc75-fc75:s:62a 64a,fc76-fc76:s:62b 631,fc77-fc77:s:62b 632,fc78-fc78:s:62b 645,fc79-fc79:s:62b 646,fc7a-fc7a:s:62b 649,fc7b-fc7b:s:62b 64a,fc7c-fc7c:s:641 649,fc7d-fc7d:s:641 64a,fc7e-fc7e:s:642 649,fc7f-fc7f:s:642 64a,fc80-fc80:s:643 627,fc81-fc81:s:643 644,fc82-fc82:s:643 645,fc83-fc83:s:643 649,fc84-fc84:s:643 64a,fc85-fc85:s:644 645,fc86-fc86:s:644 649,fc87-fc87:s:644 64a,fc88-fc88:s:645 627,fc89-fc89:s:645 645,fc8a-fc8a:s:646 631,fc8b-fc8b:s:646 632,fc8c-fc8c:s:646 645,fc8d-fc8d:s:646 646,fc8e-fc8e:s:646 649,fc8f-fc8f:s:646 64a,fc90-fc90:s:649 670,fc91-fc91:s:64a 631,fc92-fc92:s:64a 632,fc93-fc93:s:64a 645," ++
  "fc94-fc94:s:64a 646,fc95-fc95:s:64a 649,fc96-fc96:s:64a 64a,fc97-fc97:s:626 62c,fc98-fc98:s:626 62d,fc99-fc99:s:626 62e,fc9a-fc9a:s:626 645,fc9b-fc9b:s:626 647,fc9c-fc9c:s:628 62c,fc9d-fc9d:s:628 62d,fc9e-fc9e:s:628 62e,fc9f-fc9f:s:628 645,fca0-fca0:s:628 647,fca1-fca1:s:62a 62c,fca2-fca2:s:62a 62d,fca3-fca3:s:62a 62e,fca4-fca4:s:62a 645,fca5-fca5:s:62a 647,fca6-fca6:s:62b 645,fca7-fca7:s:62c 62d,fca8-fca8:s:62c 645,fca9-fca9:s:62d 62c,fcaa-fcaa:s:62d 645,fcab-fcab:s:62e 62c,fcac-fcac:s:62e 645,fcad-fcad:s:633 62c,fcae-fcae:s:633 62d,fcaf-fcaf:s:633 62e,fcb0-fcb0:s:633 645,fcb1-fcb1:s:635 62d,fcb2-fcb2:s:635 62e,fcb3-fcb3:s:635 645,fcb4-fcb4:s:636 62c,fcb5-fcb5:s:636 62d,fcb6-fcb6:s:636 62e,fcb7-fcb7:s:636 645,fcb8-fcb8:s:637 62d,fcb9-fcb9:s:638 645,fcba-fcba:s:639 62c,fcbb-fcbb:s:639 645,fcbc-fcbc:s:63a 62c,fcbd-fcbd:s:63a 645,fcbe-fcbe:s:641 62c,fcbf-fcbf:s:641 62d,fcc0-fcc0:s:641 62e,fcc1-fcc1:s:641 645,fcc2-fcc2:s:642 62d,fcc3-fcc3:s:642 645,fcc4-fcc4:s:643 62c,fcc5-fcc5:s:643 62d," ++
  "fcc6-fcc6:s:643 62e,fcc7-fcc7:s:643 644,fcc8-fcc8:s:643 645,fcc9-fcc9:s:644 62c,fcca-fcca:s:644 62d,fccb-fccb:s:644 62e,fccc-fccc:s:644 645,fccd-fccd:s:644 647,fcce-fcce:s:645 62c,fccf-fccf:s:645 62d,fcd0-fcd0:s:645 62e,fcd1-fcd1:s:645 645,fcd2-fcd2:s:646 62c,fcd3-fcd3:s:646 62d,fcd4-fcd4:s:646 62e,fcd5-fcd5:s:646 645,fcd6-fcd6:s:646 647,fcd7-fcd7:s:647 62c,fcd8-fcd8:s:647 645,fcd9-fcd9:s:647 670,fcda-fcda:s:64a 62c,fcdb-fcdb:s:64a 62d,fcdc-fcdc:s:64a 62e,fcdd-fcdd:s:64a 645,fcde-fcde:s:64a 647,fcdf-fcdf:s:626 645,fce0-fce0:s:626 647,fce1-fce1:s:628 645,fce2-fce2:s:628 647,fce3-fce3:s:62a 645,fce4-fce4:s:62a 647,fce5-fce5:s:62b 645,fce6-fce6:s:62b 647,fce7-fce7:s:633 645,fce8-fce8:s:633 647,fce9-fce9:s:634 645,fcea-fcea:s:634 647,fceb-fceb:s:643 644,fcec-fcec:s:643 645,fced-fced:s:644 645,fcee-fcee:s:646 645,fcef-fcef:s:646 647,fcf0-fcf0:s:64a 645,fcf1-fcf1:s:64a 647,fcf2-fcf2:s:640 64e 651,fcf3-fcf3:s:640 64f 651,fcf4-fcf4:s:640 650 651,fcf5-fcf5:s:637 649,fcf6-fcf6:s:637 64a," ++
  "fcf7-fcf7:s:639 649,fcf8-fcf8:s:639 64a,fcf9-fcf9:s:63a 649,fcfa-fcfa:s:63a 64a,fcfb-fcfb:s:633 649,fcfc-fcfc:s:633 64a,fcfd-fcfd:s:634 649,fcfe-fcfe:s:634 64a,fcff-fcff:s:62d 649,fd00-fd00:s:62d 64a,fd01-fd01:s:62c 649,fd02-fd02:s:62c 64a,fd03-fd03:s:62e 649,fd04-fd04:s:62e 64a,fd05-fd05:s:635 649,fd06-fd06:s:635 64a,fd07-fd07:s:636 649,fd08-fd08:s:636 64a,fd09-fd09:s:634 62c,fd0a-fd0a:s:634 62d,fd0b-fd0b:s:634 62e,fd0c-fd0c:s:634 645,fd0d-fd0d:s:634 631,fd0e-fd0e:s:633 631,fd0f-fd0f:s:635 631,fd10-fd10:s:636 631,fd11-fd11:s:637 649,fd12-fd12:s:637 64a,fd13-fd13:s:639 649,fd14-fd14:s:639 64a,fd15-fd15:s:63a 649,fd16-fd16:s:63a 64a,fd17-fd17:s:633 649,fd18-fd18:s:633 64a,fd19-fd19:s:634 649,fd1a-fd1a:s:634 64a,fd1b-fd1b:s:62d 649,fd1c-fd1c:s:62d 64a,fd1d-fd1d:s:62c 649,fd1e-fd1e:s:62c 64a,fd1f-fd1f:s:62e 649,fd20-fd20:s:62e 64a,fd21-fd21:s:635 649,fd22-fd22:s:635 64a,fd23-fd23:s:636 649,fd24-fd24:s:636 64a,fd25-fd25:s:634 62c,fd26-fd26:s:634 62d,fd27-fd27:s:634 62e,fd28-fd28:s:634 645," ++
  "fd29-fd29:s:634 631,fd2a-fd2a:s:633 631,fd2b-fd2b:s:635 631,fd2c-fd2c:s:636 631,fd2d-fd2d:s:634 62c,fd2e-fd2e:s:634 62d,fd2f-fd2f:s:634 62e,fd30-fd30:s:634 645,fd31-fd31:s:633 647,fd32-fd32:s:634 647,fd33-fd33:s:637 645,fd34-fd34:s:633 62c,fd35-fd35:s:633 62d,fd36-fd36:s:633 62e,fd37-fd37:s:634 62c,fd38-fd38:s:634 62d,fd39-fd39:s:634 62e,fd3a-fd3a:s:637 645,fd3b-fd3b:s:638 645,fd3c-fd3d:s:627 64b,fd50-fd50:s:62a 62c 645,fd51-fd52:s:62a 62d 62c,fd53-fd53:s:62a 62d 645,fd54-fd54:s:62a 62e 645,fd55-fd55:s:62a 645 62c,fd56-fd56:s:62a 645 62d,fd57-fd57:s:62a 645 62e,fd58-fd59:s:62c 645 62d,fd5a-fd5a:s:62d 645 64a,fd5b-fd5b:s:62d 645 649,fd5c-fd5c:s:633 62d 62c,fd5d-fd5d:s:633 62c 62d,fd5e-fd5e:s:633 62c 649,fd5f-fd60:s:633 645 62d,fd61-fd61:s:633 645 62c,fd62-fd63:s:633 645 645,fd64-fd65:s:635 62d 62d,fd66-fd66:s:635 645 645,fd67-fd68:s:634 62d 645,fd69-fd69:s:634 62c 64a,fd6a-fd6b:s:634 645 62e,fd6c-fd6d:s:634 645 645,fd6e-fd6e:s:636 62d 649,fd6f-fd70:s:636 62e 645,fd71-fd72:s:637 645 62d," ++
  "fd73-fd73:s:637 645 645,fd74-fd74:s:637 645 64a,fd75-fd75:s:639 62c 645,fd76-fd77:s:639 645 645,fd78-fd78:s:639 645 649,fd79-fd79:s:63a 645 645,fd7a-fd7a:s:63a 645 64a,fd7b-fd7b:s:63a 645 649,fd7c-fd7d:s:641 62e 645,fd7e-fd7e:s:642 645 62d,fd7f-fd7f:s:642 645 645,fd80-fd80:s:644 62d 645,fd81-fd81:s:644 62d 64a,fd82-fd82:s:644 62d 649,fd83-fd84:s:644 62c 62c,fd85-fd86:s:644 62e 645,fd87-fd88:s:644 645 62d,fd89-fd89:s:645 62d 62c,fd8a-fd8a:s:645 62d 645,fd8b-fd8b:s:645 62d 64a,fd8c-fd8c:s:645 62c 62d,fd8d-fd8d:s:645 62c 645,fd8e-fd8e:s:645 62e 62c,fd8f-fd8f:s:645 62e 645,fd92-fd92:s:645 62c 62e,fd93-fd93:s:647 645 62c,fd94-fd94:s:647 645 645,fd95-fd95:s:646 62d 645,fd96-fd96:s:646 62d 649,fd97-fd98:s:646 62c 645,fd99-fd99:s:646 62c 649,fd9a-fd9a:s:646 645 64a,fd9b-fd9b:s:646 645 649,fd9c-fd9d:s:64a 645 645,fd9e-fd9e:s:628 62e 64a,fd9f-fd9f:s:62a 62c 64a,fda0-fda0:s:62a 62c 649,fda1-fda1:s:62a 62e 64a,fda2-fda2:s:62a 62e 649,fda3-fda3:s:62a 645 64a,fda4-fda4:s:62a 645 649," ++
  "fda5-fda5:s:62c 645 64a,fda6-fda6:s:62c 62d 649,fda7-fda7:s:62c 645 649,fda8-fda8:s:633 62e 649,fda9-fda9:s:635 62d 64a,fdaa-fdaa:s:634 62d 64a,fdab-fdab:s:636 62d 64a,fdac-fdac:s:644 62c 64a,fdad-fdad:s:644 645 64a,fdae-fdae:s:64a 62d 64a,fdaf-fdaf:s:64a 62c 64a,fdb0-fdb0:s:64a 645 64a,fdb1-fdb1:s:645 645 64a,fdb2-fdb2:s:642 645 64a,fdb3-fdb3:s:646 62d 64a,fdb4-fdb4:s:642 645 62d,fdb5-fdb5:s:644 62d 645,fdb6-fdb6:s:639 645 64a,fdb7-fdb7:s:643 645 64a,fdb8-fdb8:s:646 62c 62d,fdb9-fdb9:s:645 62e 64a,fdba-fdba:s:644 62c 645,fdbb-fdbb:s:643 645 645,fdbc-fdbc:s:644 62c 645,fdbd-fdbd:s:646 62c 62d,fdbe-fdbe:s:62c 62d 64a,fdbf-fdbf:s:62d 62c 64a,fdc0-fdc0:s:645 62c 64a,fdc1-fdc1:s:641 645 64a,fdc2-fdc2:s:628 62d 64a,fdc3-fdc3:s:643 645 645,fdc4-fdc4:s:639 62c 645,fdc5-fdc5:s:635 645 645,fdc6-fdc6:s:633 62e 64a,fdc7-fdc7:s:646 62c 64a,fdd0-fdef:x,fdf0-fdf0:s:635 644 6d2,fdf1-fdf1:s:642 644 6d2,fdf2-fdf2:s:627 644 644 647,fdf3-fdf3:s:627 643 628 631,fdf4-fdf4:s:645 62d 645 62f," ++
  "fdf5-fdf5:s:635 644 639 645,fdf6-fdf6:s:631 633 648 644,fdf7-fdf7:s:639 644 64a 647,fdf8-fdf8:s:648 633 644 645,fdf9-fdf9:s:635 644 649,fdfa-fdfa:s:635 644 649 20 627 644 644 647 20 639 644 64a 647 20 648 633 644 645,fdfb-fdfb:s:62c 644 20 62c 644 627 644 647,fdfc-fdfc:s:631 6cc 627 644,fe00-fe0f:i,fe10-fe10:m1:-fde4,fe11-fe11:m1:-ce10,fe12-fe12:x,fe13-fe14:m1:-fdd9,fe15-fe15:m1:-fdf4,fe16-fe16:m1:-fdd7,fe17-fe18:m1:-ce01,fe19-fe1f:x,fe30-fe30:x,fe31-fe31:m1:-de1d,fe32-fe32:m1:-de1f,fe33-fe34:s:5f,fe35-fe36:m1:-fe0d,fe37-fe37:m1:-fdbc,fe38-fe38:m1:-fdbb,fe39-fe3a:m1:-ce25,fe3b-fe3c:m1:-ce2b,fe3d-fe3e:m1:-ce33,fe3f-fe40:m1:-ce37,fe41-fe44:m1:-ce35,fe47-fe47:m1:-fdec,fe48-fe48:m1:-fdeb,fe49-fe4c:s:20 305,fe4d-fe4f:s:5f,fe50-fe50:m1:-fe24,fe51-fe51:m1:-ce50,fe52-fe53:x,fe54-fe54:m1:-fe19,fe55-fe55:m1:-fe1b,fe56-fe56:m1:-fe17,fe57-fe57:m1:-fe36,fe58-fe58:m1:-de44,fe59-fe5a:m1:-fe31,fe5b-fe5b:m1:-fde0,fe5c-fe5c:m1:-fddf,fe5d-fe5e:m1:-ce49,fe5f-fe5f:m1:-fe3c,fe60-fe60:m1:-fe3a," ++
  "fe61-fe62:m1:-fe37,fe63-fe63:m1:-fe36,fe64-fe64:m1:-fe28,fe65-fe65:m1:-fe27,fe66-fe66:m1:-fe29,fe67-fe67:x,fe68-fe68:m1:-fe0c,fe69-fe6a:m1:-fe45,fe6b-fe6b:m1:-fe2b,fe6c-fe6f:x,fe70-fe70:s:20 64b,fe71-fe71:s:640 64b,fe72-fe72:s:20 64c,fe74-fe74:s:20 64d,fe75-fe75:x,fe76-fe76:s:20 64e,fe77-fe77:s:640 64e,fe78-fe78:s:20 64f,fe79-fe79:s:640 64f,fe7a-fe7a:s:20 650,fe7b-fe7b:s:640 650,fe7c-fe7c:s:20 651,fe7d-fe7d:s:640 651,fe7e-fe7e:s:20 652,fe7f-fe7f:s:640 652,fe80-fe80:m1:-f85f,fe81-fe82:s:622,fe83-fe84:s:623,fe85-fe86:s:624,fe87-fe88:s:625,fe89-fe8c:s:626,fe8d-fe8e:s:627,fe8f-fe92:s:628,fe93-fe94:s:629,fe95-fe98:s:62a,fe99-fe9c:s:62b,fe9d-fea0:s:62c,fea1-fea4:s:62d,fea5-fea8:s:62e,fea9-feaa:s:62f,feab-feac:s:630,fead-feae:s:631,feaf-feb0:s:632,feb1-feb4:s:633,feb5-feb8:s:634,feb9-febc:s:635,febd-fec0:s:636,fec1-fec4:s:637,fec5-fec8:s:638,fec9-fecc:s:639,fecd-fed0:s:63a,fed1-fed4:s:641,fed5-fed8:s:642,fed9-fedc:s:643,fedd-fee0:s:644,fee1-fee4:s:645,fee5-fee8:s:646,fee9-feec:s:647," ++
  "feed-feee:s:648,feef-fef0:s:649,fef1-fef4:s:64a,fef5-fef6:s:644 622,fef7-fef8:s:644 623,fef9-fefa:s:644 625,fefb-fefc:s:644 627,fefd-fefe:x,feff-feff:i,ff00-ff00:x,ff01-ff20:m1:-fee0,ff21-ff3a:m1:-fec0,ff3b-ff5e:m1:-fee0,ff5f-ff60:m1:-d5da,ff61-ff61:m1:-ff33,ff62-ff63:m1:-cf56,ff64-ff64:m1:-cf63,ff65-ff65:m1:-ce6a,ff66-ff66:m1:-ce74,ff67-ff67:m1:-cec6,ff68-ff68:m1:-cec5,ff69-ff69:m1:-cec4,ff6a-ff6a:m1:-cec3,ff6b-ff6b:m1:-cec2,ff6c-ff6c:m1:-ce89,ff6d-ff6d:m1:-ce88,ff6e-ff6e:m1:-ce87,ff6f-ff6f:m1:-ceac,ff70-ff70:m1:-ce74,ff71-ff71:m1:-cecf,ff72-ff72:m1:-cece,ff73-ff73:m1:-cecd,ff74-ff74:m1:-cecc,ff75-ff76:m1:-cecb,ff77-ff77:m1:-ceca,ff78-ff78:m1:-cec9,ff79-ff79:m1:-cec8,ff7a-ff7a:m1:-cec7,ff7b-ff7b:m1:-cec6,ff7c-ff7c:m1:-cec5,ff7d-ff7d:m1:-cec4,ff7e-ff7e:m1:-cec3,ff7f-ff7f:m1:-cec2,ff80-ff80:m1:-cec1,ff81-ff81:m1:-cec0,ff82-ff82:m1:-cebe,ff83-ff83:m1:-cebd,ff84-ff84:m1:-cebc,ff85-ff8a:m1:-cebb,ff8b-ff8b:m1:-ceb9,ff8c-ff8c:m1:-ceb7,ff8d-ff8d:m1:-ceb5,ff8e-ff8e:m1:-ceb3,ff8f-ff93:m1:-ceb1," ++
  "ff94-ff94:m1:-ceb0,ff95-ff95:m1:-ceaf,ff96-ff9b:m1:-ceae,ff9c-ff9c:m1:-cead,ff9d-ff9d:m1:-ceaa,ff9e-ff9f:m1:-cf05,ffa0-ffa0:i,ffa1-ffa2:m1:-eea1,ffa3-ffa3:m1:-edf9,ffa4-ffa4:m1:-eea2,ffa5-ffa6:m1:-edf9,ffa7-ffa9:m1:-eea4,ffaa-ffaf:m1:-edfa,ffb0-ffb0:m1:-ee96,ffb1-ffb3:m1:-eeab,ffb4-ffb4:m1:-ee93,ffb5-ffbe:m1:-eeac,ffbf-ffc1:x,ffc2-ffc7:m1:-ee61,ffc8-ffc9:x,ffca-ffcf:m1:-ee63,ffd0-ffd1:x,ffd2-ffd7:m1:-ee65,ffd8-ffd9:x,ffda-ffdc:m1:-ee67,ffdd-ffdf:x,ffe0-ffe1:m1:-ff3e,ffe2-ffe2:m1:-ff36,ffe3-ffe3:s:20 304,ffe4-ffe4:m1:-ff3e,ffe5-ffe5:m1:-ff40,ffe6-ffe6:m1:-df3d,ffe7-ffe7:x,ffe8-ffe8:m1:-dae6,ffe9-ffec:m1:-de59,ffed-ffed:m1:-da4d,ffee-ffee:m1:-da23,ffef-ffff:x,1000c-1000c:x,10027-10027:x,1003b-1003b:x,1003e-1003e:x,1004e-1004f:x,1005e-1007f:x,100fb-100ff:x,10103-10106:x,10134-10136:x,1018f-1018f:x,1019d-1019f:x,101a1-101cf:x,101fe-1027f:x,1029d-1029f:x,102d1-102df:x,102fc-102ff:x,10324-1032c:x,1034b-1034f:x,1037b-1037f:x,1039e-1039e:x,103c4-103c7:x,103d6-103ff:x,10400-10427:m1:28," ++
  "1049e-1049f:x,104aa-104af:x,104b0-104d3:m1:28,104d4-104d7:x,104fc-104ff:x,10528-1052f:x,10564-1056e:x,10570-1057a:m1:27,1057b-1057b:x,1057c-1058a:m1:27,1058b-1058b:x,1058c-10592:m1:27,10593-10593:x,10594-10595:m1:27,10596-10596:x,105a2-105a2:x,105b2-105b2:x,105ba-105ba:x,105bd-105bf:x,105f4-105ff:x,10737-1073f:x,10756-1075f:x,10768-1077f:x,10781-10782:m1:-104b1,10783-10783:m1:-1069d,10784-10784:m1:-104eb,10785-10785:m1:-10532,10786-10786:x,10787-10787:m1:-104e4,10788-10788:m1:-5c22,10789-10789:m1:-104e4,1078a-1078a:m1:-104e6,1078b-1078c:m1:-10535,1078d-1078d:m1:-e9fc,1078e-1078e:m1:-10536,1078f-1078f:m1:-10531,10790-10790:m1:-104e7,10791-10791:m1:-1052d,10792-10792:m1:-10530,10793-10793:m1:-10533,10794-10794:m1:-104f9,10795-10795:m1:-1066e,10796-10796:m1:-104fa,10797-10797:m1:-10530,10798-10798:m1:-10514,10799-1079a:m1:-104ef,1079b-1079b:m1:-1052f,1079c-1079c:m1:d768,1079d-1079d:m1:-600f,1079e-1079e:m1:-10530,1079f-1079f:m1:d766,107a0-107a0:m1:-10512,107a1-107a1:m1:d765," ++
  "107a2-107a2:m1:-106aa,107a3-107a4:m1:-1052d,107a5-107a5:m1:-10734,107a6-107a6:m1:-1052c,107a7-107a7:m1:d761,107a8-107a9:m1:-1052b,107aa-107aa:m1:-1052a,107ab-107ab:m1:-10503,107ac-107ac:m1:-10506,107ad-107ad:m1:-5c46,107ae-107ae:m1:-10507,107af-107af:m1:-10527,107b0-107b0:m1:-db3f,107b1-107b1:x,107b2-107b2:m1:-10523,107b3-107b4:m1:-10512,107b5-107b5:m1:-1051d,107b6-107b8:m1:-105f6,107b9-107b9:m1:d751,107ba-107ba:m1:d764,107bb-107ff:x,10806-10807:x,10809-10809:x,10836-10836:x,10839-1083b:x,1083d-1083e:x,10856-10856:x,1089f-108a6:x,108b0-108df:x,108f3-108f3:x,108f6-108fa:x,1091c-1091e:x,1093a-1093e:x,1095a-1097f:x,109b8-109bb:x,109d0-109d1:x,10a04-10a04:x,10a07-10a0b:x,10a14-10a14:x,10a18-10a18:x,10a36-10a37:x,10a3b-10a3e:x,10a49-10a4f:x,10a59-10a5f:x,10aa0-10abf:x,10ae7-10aea:x,10af7-10aff:x,10b36-10b38:x,10b56-10b57:x,10b73-10b77:x,10b92-10b98:x,10b9d-10ba8:x,10bb0-10bff:x,10c49-10c7f:x,10c80-10cb2:m1:40,10cb3-10cbf:x,10cf3-10cf9:x,10d28-10d2f:x,10d3a-10d3f:x,10d50-10d65:m1:20," ++
  "10d66-10d68:x,10d86-10d8d:x,10d90-10e5f:x,10e7f-10e7f:x,10eaa-10eaa:x,10eae-10eaf:x,10eb2-10ec1:x,10ec8-10ecf:x,10ed9-10ef9:x,10f28-10f2f:x,10f5a-10f6f:x,10f8a-10faf:x,10fcc-10fdf:x,10ff7-10fff:x,1104e-11051:x,11076-1107e:x,110bd-110bd:x,110c3-110cf:x,110e9-110ef:x,110fa-110ff:x,11135-11135:x,11148-1114f:x,11177-1117f:x,111e0-111e0:x,111f5-111ff:x,11212-11212:x,11242-1127f:x,11287-11287:x,11289-11289:x,1128e-1128e:x,1129e-1129e:x,112aa-112af:x,112eb-112ef:x,112fa-112ff:x,11304-11304:x,1130d-1130e:x,11311-11312:x,11329-11329:x,11331-11331:x,11334-11334:x,1133a-1133a:x,11345-11346:x,11349-1134a:x,1134e-1134f:x,11351-11356:x,11358-1135c:x,11364-11365:x,1136d-1136f:x,11375-1137f:x,1138a-1138a:x,1138c-1138d:x,1138f-1138f:x,113b6-113b6:x,113c1-113c1:x,113c3-113c4:x,113c6-113c6:x,113cb-113cb:x,113d6-113d6:x,113d9-113e0:x,113e3-113ff:x,1145c-1145c:x,11462-1147f:x,114c8-114cf:x,114da-1157f:x,115b6-115b7:x,115de-115ff:x,11645-1164f:x,1165a-1165f:x,1166d-1167f:x,116ba-116bf:x,116ca-116cf:x," ++
  "116e4-116ff:x,1171b-1171c:x,1172c-1172f:x,11747-117ff:x,1183c-1189f:x,118a0-118bf:m1:20,118f3-118fe:x,11907-11908:x,1190a-1190b:x,11914-11914:x,11917-11917:x,11936-11936:x,11939-1193a:x,11947-1194f:x,1195a-1199f:x,119a8-119a9:x,119d8-119d9:x,119e5-119ff:x,11a48-11a4f:x,11aa3-11aaf:x,11af9-11aff:x,11b0a-11b5f:x,11b68-11bbf:x,11be2-11bef:x,11bfa-11bff:x,11c09-11c09:x,11c37-11c37:x,11c46-11c4f:x,11c6d-11c6f:x,11c90-11c91:x,11ca8-11ca8:x,11cb7-11cff:x,11d07-11d07:x,11d0a-11d0a:x,11d37-11d39:x,11d3b-11d3b:x,11d3e-11d3e:x,11d48-11d4f:x,11d5a-11d5f:x,11d66-11d66:x,11d69-11d69:x,11d8f-11d8f:x,11d92-11d92:x,11d99-11d9f:x,11daa-11daf:x,11ddc-11ddf:x,11dea-11edf:x,11ef9-11eff:x,11f11-11f11:x,11f3b-11f3d:x,11f5b-11faf:x,11fb1-11fbf:x,11ff2-11ffe:x,1239a-123ff:x,1246f-1246f:x,12475-1247f:x,12544-12f8f:x,12ff3-12fff:x,13430-1343f:x,13456-1345f:x,143fb-143ff:x,14647-160ff:x,1613a-167ff:x,16a39-16a3f:x,16a5f-16a5f:x,16a6a-16a6d:x,16abf-16abf:x,16aca-16acf:x,16aee-16aef:x,16af6-16aff:x,16b46-16b4f:x," ++
  "16b5a-16b5a:x,16b62-16b62:x,16b78-16b7c:x,16b90-16d3f:x,16d7a-16e3f:x,16e40-16e5f:m1:20,16e9b-16e9f:x,16ea0-16eb8:m1:1b,16eb9-16eba:x,16ed4-16eff:x,16f4b-16f4e:x,16f88-16f8e:x,16fa0-16fdf:x,16fe5-16fef:x,16ff7-16fff:x,18cd6-18cfe:x,18d1f-18d7f:x,18df3-1afef:x,1aff4-1aff4:x,1affc-1affc:x,1afff-1afff:x,1b123-1b131:x,1b133-1b14f:x,1b153-1b154:x,1b156-1b163:x,1b168-1b16f:x,1b2fc-1bbff:x,1bc6b-1bc6f:x,1bc7d-1bc7f:x,1bc89-1bc8f:x,1bc9a-1bc9b:x,1bca0-1bca3:i,1bca4-1cbff:x,1ccd6-1ccef:m1:-1cc75,1ccf0-1ccf9:m1:-1ccc0,1ccfd-1ccff:x,1ceb4-1ceb9:x,1ced1-1cedf:x,1cef1-1ceff:x,1cf2e-1cf2f:x,1cf47-1cf4f:x,1cfc4-1cfff:x,1d0f6-1d0ff:x,1d127-1d128:x,1d15e-1d15e:s:1d157 1d165,1d15f-1d15f:s:1d158 1d165,1d160-1d160:s:1d158 1d165 1d16e,1d161-1d161:s:1d158 1d165 1d16f,1d162-1d162:s:1d158 1d165 1d170,1d163-1d163:s:1d158 1d165 1d171,1d164-1d164:s:1d158 1d165 1d172,1d173-1d17a:i,1d1bb-1d1bb:s:1d1b9 1d165,1d1bc-1d1bc:s:1d1ba 1d165,1d1bd-1d1bd:s:1d1b9 1d165 1d16e,1d1be-1d1be:s:1d1ba 1d165 1d16e," ++
  "1d1bf-1d1bf:s:1d1b9 1d165 1d16f,1d1c0-1d1c0:s:1d1ba 1d165 1d16f,1d1eb-1d1ff:x,1d246-1d2bf:x,1d2d4-1d2df:x,1d2f4-1d2ff:x,1d357-1d35f:x,1d379-1d3ff:x,1d400-1d419:m1:-1d39f,1d41a-1d433:m1:-1d3b9,1d434-1d44d:m1:-1d3d3,1d44e-1d454:m1:-1d3ed,1d455-1d455:x,1d456-1d467:m1:-1d3ed,1d468-1d481:m1:-1d407,1d482-1d49b:m1:-1d421,1d49c-1d49c:m1:-1d43b,1d49d-1d49d:x,1d49e-1d49f:m1:-1d43b,1d4a0-1d4a1:x,1d4a2-1d4a2:m1:-1d43b,1d4a3-1d4a4:x,1d4a5-1d4a6:m1:-1d43b,1d4a7-1d4a8:x,1d4a9-1d4ac:m1:-1d43b,1d4ad-1d4ad:x,1d4ae-1d4b5:m1:-1d43b,1d4b6-1d4b9:m1:-1d455,1d4ba-1d4ba:x,1d4bb-1d4bb:m1:-1d455,1d4bc-1d4bc:x,1d4bd-1d4c3:m1:-1d455,1d4c4-1d4c4:x,1d4c5-1d4cf:m1:-1d455,1d4d0-1d4e9:m1:-1d46f,1d4ea-1d503:m1:-1d489,1d504-1d505:m1:-1d4a3,1d506-1d506:x,1d507-1d50a:m1:-1d4a3,1d50b-1d50c:x,1d50d-1d514:m1:-1d4a3,1d515-1d515:x,1d516-1d51c:m1:-1d4a3,1d51d-1d51d:x,1d51e-1d537:m1:-1d4bd,1d538-1d539:m1:-1d4d7,1d53a-1d53a:x,1d53b-1d53e:m1:-1d4d7,1d53f-1d53f:x,1d540-1d544:m1:-1d4d7,1d545-1d545:x,1d546-1d546:m1:-1d4d7," ++
  "1d547-1d549:x,1d54a-1d550:m1:-1d4d7,1d551-1d551:x,1d552-1d56b:m1:-1d4f1,1d56c-1d585:m1:-1d50b,1d586-1d59f:m1:-1d525,1d5a0-1d5b9:m1:-1d53f,1d5ba-1d5d3:m1:-1d559,1d5d4-1d5ed:m1:-1d573,1d5ee-1d607:m1:-1d58d,1d608-1d621:m1:-1d5a7,1d622-1d63b:m1:-1d5c1,1d63c-1d655:m1:-1d5db,1d656-1d66f:m1:-1d5f5,1d670-1d689:m1:-1d60f,1d68a-1d6a3:m1:-1d629,1d6a4-1d6a4:m1:-1d573,1d6a5-1d6a5:m1:-1d46e,1d6a6-1d6a7:x,1d6a8-1d6b8:m1:-1d2f7,1d6b9-1d6b9:m1:-1d301,1d6ba-1d6c0:m1:-1d2f7,1d6c1-1d6c1:m1:-1b4ba,1d6c2-1d6d2:m1:-1d311,1d6d3-1d6d4:s:3c3,1d6d5-1d6da:m1:-1d311,1d6db-1d6db:m1:-1b4d9,1d6dc-1d6dc:m1:-1d327,1d6dd-1d6dd:m1:-1d325,1d6de-1d6de:m1:-1d324,1d6df-1d6df:m1:-1d319,1d6e0-1d6e0:m1:-1d31f,1d6e1-1d6e1:m1:-1d321,1d6e2-1d6f2:m1:-1d331,1d6f3-1d6f3:m1:-1d33b,1d6f4-1d6fa:m1:-1d331,1d6fb-1d6fb:m1:-1b4f4,1d6fc-1d70c:m1:-1d34b,1d70d-1d70e:s:3c3,1d70f-1d714:m1:-1d34b,1d715-1d715:m1:-1b513,1d716-1d716:m1:-1d361,1d717-1d717:m1:-1d35f,1d718-1d718:m1:-1d35e,1d719-1d719:m1:-1d353,1d71a-1d71a:m1:-1d359," ++
  "1d71b-1d71b:m1:-1d35b,1d71c-1d72c:m1:-1d36b,1d72d-1d72d:m1:-1d375,1d72e-1d734:m1:-1d36b,1d735-1d735:m1:-1b52e,1d736-1d746:m1:-1d385,1d747-1d748:s:3c3,1d749-1d74e:m1:-1d385,1d74f-1d74f:m1:-1b54d,1d750-1d750:m1:-1d39b,1d751-1d751:m1:-1d399,1d752-1d752:m1:-1d398,1d753-1d753:m1:-1d38d,1d754-1d754:m1:-1d393,1d755-1d755:m1:-1d395,1d756-1d766:m1:-1d3a5,1d767-1d767:m1:-1d3af,1d768-1d76e:m1:-1d3a5,1d76f-1d76f:m1:-1b568,1d770-1d780:m1:-1d3bf,1d781-1d782:s:3c3,1d783-1d788:m1:-1d3bf,1d789-1d789:m1:-1b587,1d78a-1d78a:m1:-1d3d5,1d78b-1d78b:m1:-1d3d3,1d78c-1d78c:m1:-1d3d2,1d78d-1d78d:m1:-1d3c7,1d78e-1d78e:m1:-1d3cd,1d78f-1d78f:m1:-1d3cf,1d790-1d7a0:m1:-1d3df,1d7a1-1d7a1:m1:-1d3e9,1d7a2-1d7a8:m1:-1d3df,1d7a9-1d7a9:m1:-1b5a2,1d7aa-1d7ba:m1:-1d3f9,1d7bb-1d7bc:s:3c3,1d7bd-1d7c2:m1:-1d3f9,1d7c3-1d7c3:m1:-1b5c1,1d7c4-1d7c4:m1:-1d40f,1d7c5-1d7c5:m1:-1d40d,1d7c6-1d7c6:m1:-1d40c,1d7c7-1d7c7:m1:-1d401,1d7c8-1d7c8:m1:-1d407,1d7c9-1d7c9:m1:-1d409,1d7ca-1d7cb:s:3dd,1d7cc-1d7cd:x,1d7ce-1d7d7:m1:-1d79e," ++
  "1d7d8-1d7e1:m1:-1d7a8,1d7e2-1d7eb:m1:-1d7b2,1d7ec-1d7f5:m1:-1d7bc,1d7f6-1d7ff:m1:-1d7c6,1da8c-1da9a:x,1daa0-1daa0:x,1dab0-1deff:x,1df1f-1df24:x,1df2b-1dfff:x,1e007-1e007:x,1e019-1e01a:x,1e022-1e022:x,1e025-1e025:x,1e02b-1e02f:x,1e030-1e038:m1:-1dc00,1e039-1e03b:m1:-1dbff,1e03c-1e046:m1:-1dbfe,1e047-1e047:m1:-1dbfc,1e048-1e049:m1:-1dbfb,1e04a-1e04a:m1:-139c1,1e04b-1e04b:m1:-1db72,1e04c-1e04c:m1:-1dbf6,1e04d-1e04d:m1:-1dbf5,1e04e-1e04e:m1:-1db65,1e04f-1e04f:m1:-1dba0,1e050-1e050:m1:-1db81,1e051-1e059:m1:-1dc21,1e05a-1e05b:m1:-1dc20,1e05c-1e05d:m1:-1dc1e,1e05e-1e05e:m1:-1dc1d,1e05f-1e064:m1:-1dc1c,1e065-1e066:m1:-1dc1b,1e067-1e067:m1:-1dbd6,1e068-1e068:m1:-1dc12,1e069-1e069:m1:-1dc14,1e06a-1e06a:m1:-1dc0b,1e06b-1e06b:m1:-1dbc0,1e06c-1e06c:m1:-13a1b,1e06d-1e06d:m1:-1dbbc,1e06e-1e08e:x,1e090-1e0ff:x,1e12d-1e12f:x,1e13e-1e13f:x,1e14a-1e14d:x,1e150-1e28f:x,1e2af-1e2bf:x,1e2fa-1e2fe:x,1e300-1e4cf:x,1e4fa-1e5cf:x,1e5fb-1e5fe:x,1e600-1e6bf:x,1e6df-1e6df:x,1e6f6-1e6fd:x,1e700-1e7df:x," ++
  "1e7e7-1e7e7:x,1e7ec-1e7ec:x,1e7ef-1e7ef:x,1e7ff-1e7ff:x,1e8c5-1e8c6:x,1e8d7-1e8ff:x,1e900-1e921:m1:22,1e94c-1e94f:x,1e95a-1e95d:x,1e960-1ec70:x,1ecb5-1ed00:x,1ed3e-1edff:x,1ee00-1ee01:m1:-1e7d9,1ee02-1ee02:m1:-1e7d6,1ee03-1ee03:m1:-1e7d4,1ee04-1ee04:x,1ee05-1ee05:m1:-1e7bd,1ee06-1ee06:m1:-1e7d4,1ee07-1ee07:m1:-1e7da,1ee08-1ee08:m1:-1e7d1,1ee09-1ee09:m1:-1e7bf,1ee0a-1ee0d:m1:-1e7c7,1ee0e-1ee0e:m1:-1e7db,1ee0f-1ee0f:m1:-1e7d6,1ee10-1ee10:m1:-1e7cf,1ee11-1ee11:m1:-1e7dc,1ee12-1ee12:m1:-1e7d0,1ee13-1ee13:m1:-1e7e2,1ee14-1ee14:m1:-1e7e0,1ee15-1ee16:m1:-1e7eb,1ee17-1ee17:m1:-1e7e9,1ee18-1ee18:m1:-1e7e8,1ee19-1ee19:m1:-1e7e3,1ee1a-1ee1a:m1:-1e7e2,1ee1b-1ee1b:m1:-1e7e1,1ee1c-1ee1c:m1:-1e7ae,1ee1d-1ee1d:m1:-1e763,1ee1e-1ee1e:m1:-1e77d,1ee1f-1ee1f:m1:-1e7b0,1ee20-1ee20:x,1ee21-1ee21:m1:-1e7f9,1ee22-1ee22:m1:-1e7f6,1ee23-1ee23:x,1ee24-1ee24:m1:-1e7dd,1ee25-1ee26:x,1ee27-1ee27:m1:-1e7fa,1ee28-1ee28:x,1ee29-1ee29:m1:-1e7df,1ee2a-1ee2d:m1:-1e7e7,1ee2e-1ee2e:m1:-1e7fb,1ee2f-1ee2f:m1:-1e7f6," ++
  "1ee30-1ee30:m1:-1e7ef,1ee31-1ee31:m1:-1e7fc,1ee32-1ee32:m1:-1e7f0,1ee33-1ee33:x,1ee34-1ee34:m1:-1e800,1ee35-1ee36:m1:-1e80b,1ee37-1ee37:m1:-1e809,1ee38-1ee38:x,1ee39-1ee39:m1:-1e803,1ee3a-1ee3a:x,1ee3b-1ee3b:m1:-1e801,1ee3c-1ee41:x,1ee42-1ee42:m1:-1e816,1ee43-1ee46:x,1ee47-1ee47:m1:-1e81a,1ee48-1ee48:x,1ee49-1ee49:m1:-1e7ff,1ee4a-1ee4a:x,1ee4b-1ee4b:m1:-1e807,1ee4c-1ee4c:x,1ee4d-1ee4d:m1:-1e807,1ee4e-1ee4e:m1:-1e81b,1ee4f-1ee4f:m1:-1e816,1ee50-1ee50:x,1ee51-1ee51:m1:-1e81c,1ee52-1ee52:m1:-1e810,1ee53-1ee53:x,1ee54-1ee54:m1:-1e820,1ee55-1ee56:x,1ee57-1ee57:m1:-1e829,1ee58-1ee58:x,1ee59-1ee59:m1:-1e823,1ee5a-1ee5a:x,1ee5b-1ee5b:m1:-1e821,1ee5c-1ee5c:x,1ee5d-1ee5d:m1:-1e7a3,1ee5e-1ee5e:x,1ee5f-1ee5f:m1:-1e7f0,1ee60-1ee60:x,1ee61-1ee61:m1:-1e839,1ee62-1ee62:m1:-1e836,1ee63-1ee63:x,1ee64-1ee64:m1:-1e81d,1ee65-1ee66:x,1ee67-1ee67:m1:-1e83a,1ee68-1ee68:m1:-1e831,1ee69-1ee69:m1:-1e81f,1ee6a-1ee6a:m1:-1e827,1ee6b-1ee6b:x,1ee6c-1ee6d:m1:-1e827,1ee6e-1ee6e:m1:-1e83b,1ee6f-1ee6f:m1:-1e836," ++
  "1ee70-1ee70:m1:-1e82f,1ee71-1ee71:m1:-1e83c,1ee72-1ee72:m1:-1e830,1ee73-1ee73:x,1ee74-1ee74:m1:-1e840,1ee75-1ee76:m1:-1e84b,1ee77-1ee77:m1:-1e849,1ee78-1ee78:x,1ee79-1ee79:m1:-1e843,1ee7a-1ee7a:m1:-1e842,1ee7b-1ee7b:m1:-1e841,1ee7c-1ee7c:m1:-1e80e,1ee7d-1ee7d:x,1ee7e-1ee7e:m1:-1e7dd,1ee7f-1ee7f:x,1ee80-1ee81:m1:-1e859,1ee82-1ee82:m1:-1e856,1ee83-1ee83:m1:-1e854,1ee84-1ee85:m1:-1e83d,1ee86-1ee86:m1:-1e854,1ee87-1ee87:m1:-1e85a,1ee88-1ee88:m1:-1e851,1ee89-1ee89:m1:-1e83f,1ee8a-1ee8a:x,1ee8b-1ee8d:m1:-1e847,1ee8e-1ee8e:m1:-1e85b,1ee8f-1ee8f:m1:-1e856,1ee90-1ee90:m1:-1e84f,1ee91-1ee91:m1:-1e85c,1ee92-1ee92:m1:-1e850,1ee93-1ee93:m1:-1e862,1ee94-1ee94:m1:-1e860,1ee95-1ee96:m1:-1e86b,1ee97-1ee97:m1:-1e869,1ee98-1ee98:m1:-1e868,1ee99-1ee99:m1:-1e863,1ee9a-1ee9a:m1:-1e862,1ee9b-1ee9b:m1:-1e861,1ee9c-1eea0:x,1eea1-1eea1:m1:-1e879,1eea2-1eea2:m1:-1e876,1eea3-1eea3:m1:-1e874,1eea4-1eea4:x,1eea5-1eea5:m1:-1e85d,1eea6-1eea6:m1:-1e874,1eea7-1eea7:m1:-1e87a,1eea8-1eea8:m1:-1e871,1eea9-1eea9:m1:-1e85f," ++
  "1eeaa-1eeaa:x,1eeab-1eead:m1:-1e867,1eeae-1eeae:m1:-1e87b,1eeaf-1eeaf:m1:-1e876,1eeb0-1eeb0:m1:-1e86f,1eeb1-1eeb1:m1:-1e87c,1eeb2-1eeb2:m1:-1e870,1eeb3-1eeb3:m1:-1e882,1eeb4-1eeb4:m1:-1e880,1eeb5-1eeb6:m1:-1e88b,1eeb7-1eeb7:m1:-1e889,1eeb8-1eeb8:m1:-1e888,1eeb9-1eeb9:m1:-1e883,1eeba-1eeba:m1:-1e882,1eebb-1eebb:m1:-1e881,1eebc-1eeef:x,1eef2-1efff:x,1f02c-1f02f:x,1f094-1f09f:x,1f0af-1f0b0:x,1f0c0-1f0c0:x,1f0d0-1f0d0:x,1f0f6-1f100:x,1f101-1f101:s:30 2c,1f102-1f102:s:31 2c,1f103-1f103:s:32 2c,1f104-1f104:s:33 2c,1f105-1f105:s:34 2c,1f106-1f106:s:35 2c,1f107-1f107:s:36 2c,1f108-1f108:s:37 2c,1f109-1f109:s:38 2c,1f10a-1f10a:s:39 2c,1f110-1f110:s:28 61 29,1f111-1f111:s:28 62 29,1f112-1f112:s:28 63 29,1f113-1f113:s:28 64 29,1f114-1f114:s:28 65 29,1f115-1f115:s:28 66 29,1f116-1f116:s:28 67 29,1f117-1f117:s:28 68 29,1f118-1f118:s:28 69 29,1f119-1f119:s:28 6a 29,1f11a-1f11a:s:28 6b 29,1f11b-1f11b:s:28 6c 29,1f11c-1f11c:s:28 6d 29,1f11d-1f11d:s:28 6e 29,1f11e-1f11e:s:28 6f 29," ++
  "1f11f-1f11f:s:28 70 29,1f120-1f120:s:28 71 29,1f121-1f121:s:28 72 29,1f122-1f122:s:28 73 29,1f123-1f123:s:28 74 29,1f124-1f124:s:28 75 29,1f125-1f125:s:28 76 29,1f126-1f126:s:28 77 29,1f127-1f127:s:28 78 29,1f128-1f128:s:28 79 29,1f129-1f129:s:28 7a 29,1f12a-1f12a:s:3014 73 3015,1f12b-1f12b:m1:-1f0c8,1f12c-1f12c:m1:-1f0ba,1f12d-1f12d:s:63 64,1f12e-1f12e:s:77 7a,1f130-1f149:m1:-1f0cf,1f14a-1f14a:s:68 76,1f14b-1f14b:s:6d 76,1f14c-1f14c:s:73 64,1f14d-1f14d:s:73 73,1f14e-1f14e:s:70 70 76,1f14f-1f14f:s:77 63,1f16a-1f16a:s:6d 63,1f16b-1f16b:s:6d 64,1f16c-1f16c:s:6d 72,1f190-1f190:s:64 6a,1f1ae-1f1e5:x,1f200-1f200:s:307b 304b,1f201-1f201:s:30b3 30b3,1f202-1f202:m1:-1c14d,1f203-1f20f:x,1f210-1f210:m1:-18fc5,1f211-1f211:m1:-196ba,1f212-1f212:m1:-19e46,1f213-1f213:m1:-1c14c,1f214-1f214:m1:-1a388,1f215-1f215:m1:-198fb,1f216-1f216:m1:-16833,1f217-1f217:m1:-198ee,1f218-1f218:m1:-1a374,1f219-1f219:m1:-18bf9,1f21a-1f21a:m1:-180f9,1f21b-1f21b:m1:-18c82,1f21c-1f21c:m1:-19fcf,1f21d-1f21d:m1:-19291," ++
  "1f21e-1f21e:m1:-1a091,1f21f-1f21f:m1:-18c6f,1f220-1f220:m1:-1a003,1f221-1f221:m1:-174df,1f222-1f222:m1:-17d03,1f223-1f223:m1:-1657a,1f224-1f224:m1:-19934,1f225-1f225:m1:-19dec,1f226-1f226:m1:-18312,1f227-1f227:m1:-18f92,1f228-1f228:m1:-18ed3,1f229-1f229:m1:-1a429,1f22a-1f22a:m1:-1a421,1f22b-1f22b:m1:-161e1,1f22c-1f22c:m1:-19446,1f22d-1f22d:m1:-1a400,1f22e-1f22e:m1:-19e3b,1f22f-1f22f:m1:-18f28,1f230-1f230:m1:-164c0,1f231-1f231:m1:-18fde,1f232-1f232:m1:-178b1,1f233-1f233:m1:-177b9,1f234-1f234:m1:-19e2c,1f235-1f235:m1:-183b5,1f236-1f236:m1:-18b2d,1f237-1f237:m1:-18b2f,1f238-1f238:m1:-17d05,1f239-1f239:m1:-19fc7,1f23a-1f23a:m1:-19c84,1f23b-1f23b:m1:-160ee,1f23c-1f23f:x,1f240-1f240:s:3014 672c 3015,1f241-1f241:s:3014 4e09 3015,1f242-1f242:s:3014 4e8c 3015,1f243-1f243:s:3014 5b89 3015,1f244-1f244:s:3014 70b9 3015,1f245-1f245:s:3014 6253 3015,1f246-1f246:s:3014 76d7 3015,1f247-1f247:s:3014 52dd 3015,1f248-1f248:s:3014 6557 3015,1f249-1f24f:x,1f250-1f250:m1:-192b9,1f251-1f251:m1:-19e62," ++
  "1f252-1f25f:x,1f266-1f2ff:x,1f6d9-1f6db:x,1f6ed-1f6ef:x,1f6fd-1f6ff:x,1f7da-1f7df:x,1f7ec-1f7ef:x,1f7f1-1f7ff:x,1f80c-1f80f:x,1f848-1f84f:x,1f85a-1f85f:x,1f888-1f88f:x,1f8ae-1f8af:x,1f8bc-1f8bf:x,1f8c2-1f8cf:x,1f8d9-1f8ff:x,1fa58-1fa5f:x,1fa6e-1fa6f:x,1fa7d-1fa7f:x,1fa8b-1fa8d:x,1fac7-1fac7:x,1fac9-1facc:x,1fadd-1fade:x,1faeb-1faee:x,1faf9-1faff:x,1fb93-1fb93:x,1fbf0-1fbf9:m1:-1fbc0,1fbfb-1ffff:x,2a6e0-2a6ff:x,2b81e-2b81f:x,2ceae-2ceaf:x,2ebe1-2ebef:x,2ee5e-2f7ff:x,2f800-2f800:m1:-2a9c3,2f801-2f801:m1:-2a9c9,2f802-2f802:m1:-2a9c1,2f803-2f803:m1:-f6e1,2f804-2f804:m1:-2a8a4,2f805-2f805:m1:-2a857,2f806-2f806:m1:-2a84b,2f807-2f807:m1:-2a805,2f808-2f808:m1:-2a78e,2f809-2f809:m1:-2a770,2f80a-2f80a:m1:-2a723,2f80b-2f80b:m1:-2a73c,2f80c-2f80c:m1:-2c36e,2f80d-2f80d:m1:-f1d3,2f80e-2f80e:m1:-2a6c1,2f80f-2f80f:m1:-2a6bb,2f810-2f810:m1:-2a6ac,2f811-2f811:m1:-2a69a,2f812-2f812:m1:-f2f6,2f813-2f813:m1:-2c35a,2f814-2f814:m1:-2a6ad,2f815-2f815:m1:-2a688,2f816-2f816:m1:-f2cb,2f817-2f817:m1:-2a680," ++
  "2f818-2f818:m1:-2a674,2f819-2f819:m1:-2a94d,2f81a-2f81a:m1:-2a66e,2f81b-2f81b:m1:-2a666,2f81c-2f81c:m1:-663d,2f81d-2f81d:m1:-2a628,2f81e-2f81e:m1:-2a61b,2f81f-2f81f:m1:-2c340,2f820-2f820:m1:-2a5e5,2f821-2f821:m1:-2a5db,2f822-2f822:m1:-2a5b0,2f823-2f823:m1:-2a5ac,2f824-2f824:m1:-2c30f,2f825-2f825:m1:-2a55e,2f826-2f826:m1:-2a55d,2f827-2f827:m1:-2a543,2f828-2f828:m1:-2a52e,2f829-2f82a:m1:-2a524,2f82b-2f82b:m1:-2a514,2f82c-2f82c:m1:-2a4e3,2f82d-2f82d:m1:-2a4dc,2f82e-2f82e:m1:-2a4d4,2f82f-2f82f:m1:-2a4bc,2f830-2f830:m1:-2a4b3,2f831-2f833:s:537f,2f834-2f834:m1:-ee08,2f835-2f835:m1:-287c5,2f836-2f836:m1:-2a46c,2f837-2f837:m1:-2a458,2f838-2f838:m1:-ecd5,2f839-2f839:m1:-2a44e,2f83a-2f83a:m1:-2a449,2f83b-2f83b:m1:-2a435,2f83c-2f83c:m1:-2a39e,2f83d-2f83d:m1:-2a405,2f83e-2f83e:m1:-2a3f6,2f83f-2f83f:m1:-2a3d7,2f840-2f840:m1:-2a39e,2f841-2f841:m1:-2a34b,2f842-2f842:m1:-2a332,2f843-2f843:m1:-2a2f0,2f844-2f844:m1:-2a2e1,2f845-2f846:s:5584,2f847-2f847:m1:-2a2ae,2f848-2f848:m1:-2a29d," ++
  "2f849-2f849:m1:-2a296,2f84a-2f84a:m1:-2a288,2f84b-2f84b:m1:-2a135,2f84c-2f84c:m1:-2a246,2f84d-2f84d:m1:-2a136,2f84e-2f84e:m1:-2a1fd,2f84f-2f84f:m1:-2a1db,2f850-2f850:m1:-2a649,2f851-2f851:m1:-29f63,2f852-2f852:m1:-2a084,2f853-2f853:m1:-2a05f,2f854-2f854:m1:-2a047,2f855-2f855:m1:-2a0ca,2f856-2f856:m1:-2a024,2f857-2f857:m1:-2a026,2f858-2f858:m1:-29fac,2f859-2f859:m1:-e375,2f85a-2f85a:m1:-29f68,2f85b-2f85b:m1:-29f64,2f85c-2f85c:m1:-29f56,2f85d-2f85d:m1:-29f43,2f85e-2f85e:m1:-29f3c,2f85f-2f85f:m1:-29efd,2f860-2f860:m1:-e1b8,2f861-2f861:m1:-e177,2f862-2f862:m1:-29e76,2f863-2f863:m1:-29e48,2f864-2f864:m1:-29e3d,2f865-2f865:m1:-29e8d,2f866-2f866:m1:-29e00,2f867-2f867:m1:-2c179,2f868-2f868:m1:-2c16c,2f869-2f869:m1:-29d61,2f86a-2f86b:s:5b3e,2f86c-2f86c:m1:-dea4,2f86d-2f86d:m1:-29caa,2f86e-2f86e:m1:-29c96,2f86f-2f86f:m1:-29c88,2f870-2f870:m1:-29c7d,2f871-2f871:m1:-dd59,2f872-2f872:m1:-29c73,2f873-2f873:m1:-29c6d,2f874-2f874:m1:-29921,2f875-2f875:m1:-29c53,2f876-2f876:m1:-2c0f5," ++
  "2f877-2f877:m1:-29c17,2f878-2f878:m1:-29c0a,2f879-2f879:m1:-29bb9,2f87a-2f87a:m1:-29bed,2f87b-2f87b:m1:-da97,2f87c-2f87c:m1:-29b39,2f87d-2f87d:m1:-da97,2f87e-2f87e:m1:-29b10,2f87f-2f87f:m1:-29b14,2f880-2f880:m1:-29b04,2f881-2f882:m1:-29aa0,2f883-2f883:m1:-2c054,2f884-2f884:m1:-29a87,2f885-2f885:m1:-29a5d,2f886-2f886:m1:-29a49,2f887-2f887:m1:-29a1e,2f888-2f888:m1:-2c026,2f889-2f889:m1:-d706,2f88a-2f88a:m1:-2c00e,2f88b-2f88b:m1:-299db,2f88c-2f88c:m1:-299d9,2f88d-2f88d:m1:-299d7,2f88e-2f88e:m1:-299c4,2f88f-2f88f:m1:-54fd,2f890-2f890:m1:-29992,2f891-2f892:s:22331,2f893-2f893:m1:-27692,2f894-2f895:s:5f22,2f896-2f896:m1:-2bfcf,2f897-2f897:m1:-c5df,2f898-2f898:m1:-96be,2f899-2f899:m1:-29937,2f89a-2f89a:m1:-2992f,2f89b-2f89b:m1:-2bfb8,2f89c-2f89c:m1:-29902,2f89d-2f89d:m1:-298d0,2f89e-2f89e:m1:-298c7,2f89f-2f89f:m1:-298a6,2f8a0-2f8a0:m1:-2981f,2f8a1-2f8a1:m1:-2bf67,2f8a2-2f8a2:m1:-2bf86,2f8a3-2f8a3:m1:-2980f,2f8a4-2f8a4:m1:-d1d0,2f8a5-2f8a5:m1:-297de,2f8a6-2f8a6:m1:-2975e,2f8a7-2f8a7:m1:-2975b," ++
  "2f8a8-2f8a8:m1:-2975a,2f8a9-2f8a9:m1:-2975d,2f8aa-2f8aa:m1:-29730,2f8ab-2f8ab:m1:-2971d,2f8ac-2f8ac:m1:-296fa,2f8ad-2f8ad:m1:-29709,2f8ae-2f8ae:m1:-296ff,2f8af-2f8af:m1:-296d1,2f8b0-2f8b0:m1:-296be,2f8b1-2f8b1:m1:-296bb,2f8b2-2f8b2:m1:-296a2,2f8b3-2f8b3:m1:-29698,2f8b4-2f8b4:m1:-29657,2f8b5-2f8b5:m1:-29604,2f8b6-2f8b6:m1:-295e2,2f8b7-2f8b7:m1:-29567,2f8b8-2f8b8:m1:-cdac,2f8b9-2f8b9:m1:-2957c,2f8ba-2f8ba:m1:-295be,2f8bb-2f8bb:m1:-29553,2f8bc-2f8bc:m1:-29539,2f8bd-2f8bd:m1:-294d9,2f8be-2f8be:m1:-cccd,2f8bf-2f8bf:m1:-2949d,2f8c0-2f8c0:m1:-294fb,2f8c1-2f8c1:m1:-29518,2f8c2-2f8c2:m1:-2be94,2f8c3-2f8c3:m1:-2945a,2f8c4-2f8c4:m1:-29446,2f8c5-2f8c5:m1:-29428,2f8c6-2f8c6:m1:-2944f,2f8c7-2f8c7:m1:-2be5b,2f8c8-2f8c8:m1:-29379,2f8c9-2f8c9:m1:-2935d,2f8ca-2f8ca:m1:-c8c0,2f8cb-2f8cb:m1:-292e8,2f8cc-2f8cc:m1:-291d4,2f8cd-2f8cd:m1:-29284,2f8ce-2f8ce:m1:-2bdb5,2f8cf-2f8cf:m1:-2923e,2f8d0-2f8d0:m1:-2bdc8,2f8d1-2f8d1:m1:-2bded,2f8d2-2f8d2:m1:-2a740,2f8d3-2f8d3:m1:-2a73e,2f8d4-2f8d4:m1:-291d4," ++
  "2f8d5-2f8d5:m1:-29239,2f8d6-2f8d6:m1:-27829,2f8d7-2f8d7:m1:-2b4fe,2f8d8-2f8d8:m1:-291c1,2f8d9-2f8d9:m1:-291be,2f8da-2f8da:m1:-291b9,2f8db-2f8db:m1:-2917d,2f8dc-2f8dc:m1:-29189,2f8dd-2f8dd:m1:-c51a,2f8de-2f8de:m1:-2bd95,2f8df-2f8df:m1:-290e5,2f8e0-2f8e0:m1:-2915b,2f8e1-2f8e1:m1:-2908f,2f8e2-2f8e2:m1:-2905d,2f8e3-2f8e3:m1:-c476,2f8e4-2f8e4:m1:-29056,2f8e5-2f8e5:m1:-290c6,2f8e6-2f8e6:m1:-28fd2,2f8e7-2f8e7:m1:-2bd4a,2f8e8-2f8e8:m1:-28fa6,2f8e9-2f8e9:m1:-28f46,2f8ea-2f8ea:m1:-28f00,2f8eb-2f8eb:m1:-28e43,2f8ec-2f8ec:m1:-c249,2f8ed-2f8ed:m1:-28e12,2f8ee-2f8ee:m1:-2bcd6,2f8ef-2f8ef:m1:-28dce,2f8f0-2f8f0:m1:-c049,2f8f1-2f8f1:m1:-28d9d,2f8f2-2f8f2:m1:-2bca4,2f8f3-2f8f3:m1:-28d81,2f8f4-2f8f4:m1:-28d55,2f8f5-2f8f6:m1:-28d3b,2f8f7-2f8f7:m1:-be6a,2f8f8-2f8f8:m1:-dbed,2f8f9-2f8f9:m1:-bdff,2f8fa-2f8fa:m1:-28cac,2f8fb-2f8fb:m1:-bc3f,2f8fc-2f8fc:m1:-28c3d,2f8fd-2f8fd:m1:-28c30,2f8fe-2f8fe:m1:-28c97,2f8ff-2f8ff:m1:-28be9,2f900-2f900:m1:-28bc2,2f901-2f901:m1:-28b8a,2f902-2f902:m1:-28bc1," ++
  "2f903-2f903:m1:-28b9a,2f904-2f904:m1:-28b8c,2f905-2f905:m1:-28b80,2f906-2f906:m1:-bbe8,2f907-2f907:m1:-28bd3,2f908-2f908:m1:-28ad9,2f909-2f909:m1:-28a9b,2f90a-2f90a:m1:-2bbd7,2f90b-2f90b:m1:-28a40,2f90c-2f90c:m1:-28a45,2f90d-2f90d:m1:-ba3c,2f90e-2f90e:m1:-28b15,2f90f-2f90f:m1:-289a1,2f910-2f910:m1:-b9b2,2f911-2f911:m1:-b983,2f912-2f912:m1:-2894c,2f913-2f913:m1:-288da,2f914-2f914:m1:-288f6,2f915-2f915:m1:-288fa,2f916-2f916:m1:-2bb80,2f917-2f917:m1:-288cd,2f918-2f918:m1:-2889b,2f919-2f919:m1:-288a2,2f91a-2f91a:m1:-2886d,2f91b-2f91b:m1:-f3f6,2f91c-2f91c:m1:-287d7,2f91d-2f91d:m1:-b6ba,2f91e-2f91e:m1:-28782,2f91f-2f91f:m1:-b574,2f920-2f920:m1:-286f8,2f921-2f921:m1:-286ec,2f922-2f922:m1:-286d2,2f923-2f923:m1:-b31b,2f924-2f924:m1:-286a4,2f925-2f925:m1:-28690,2f926-2f926:m1:-b1f1,2f927-2f927:m1:-b113,2f928-2f928:m1:-285ae,2f929-2f929:m1:-2859e,2f92a-2f92a:m1:-2ba7e,2f92b-2f92b:m1:-28586,2f92c-2f92d:s:3eb8,2f92e-2f92e:m1:-284e7,2f92f-2f92f:m1:-284d3,2f930-2f930:m1:-284bf,2f931-2f931:m1:-284ac," ++
  "2f932-2f932:m1:-28468,2f933-2f933:m1:-2ba18,2f934-2f934:m1:-28410,2f935-2f935:m1:-acff,2f936-2f936:m1:-283f8,2f937-2f937:m1:-aca5,2f938-2f938:m1:-283c8,2f939-2f939:m1:-d79a,2f93a-2f93a:m1:-2832a,2f93b-2f93b:m1:-a99a,2f93c-2f93c:m1:-a984,2f93d-2f93d:m1:-a8f9,2f93e-2f93e:m1:-2b942,2f93f-2f93f:m1:-2b937,2f940-2f940:m1:-2824c,2f941-2f941:m1:-a84e,2f942-2f942:m1:-a850,2f943-2f943:m1:-a82a,2f944-2f944:m1:-a811,2f945-2f945:m1:-28227,2f946-2f947:s:771f,2f948-2f948:m1:-281fe,2f949-2f949:m1:-2b910,2f94a-2f94a:m1:-281bf,2f94b-2f94b:m1:-2b905,2f94c-2f94c:m1:-2b8b6,2f94d-2f94d:m1:-a530,2f94e-2f94e:m1:-28100,2f94f-2f94f:m1:-280c3,2f950-2f950:m1:-28084,2f951-2f951:m1:-2b86e,2f952-2f952:m1:-a32c,2f953-2f953:m1:-27ffd,2f954-2f954:m1:-a2ba,2f955-2f955:m1:-a290,2f956-2f956:m1:-27fc7,2f957-2f957:m1:-27f6c,2f958-2f958:m1:-2b829,2f959-2f959:m1:-27f19,2f95a-2f95a:m1:-27f10,2f95b-2f95b:m1:-27f0c,2f95c-2f95c:m1:-9fe0,2f95d-2f95e:s:25aa7,2f95f-2f95f:m1:-27e71,2f960-2f960:m1:-2b75e,2f961-2f961:m1:-9db6," ++
  "2f962-2f962:m1:-27d9c,2f963-2f963:m1:-27d9a,2f964-2f964:m1:-2b73d,2f965-2f965:m1:-9ce5,2f966-2f966:m1:-27c94,2f967-2f967:m1:-2b6c7,2f968-2f968:m1:-27c80,2f969-2f969:m1:-27c86,2f96a-2f96a:m1:-27c6a,2f96b-2f96b:m1:-99e5,2f96c-2f96c:m1:-27c09,2f96d-2f96d:m1:-2b66c,2f96e-2f96e:m1:-27ba7,2f96f-2f96f:m1:-27b6d,2f970-2f970:m1:-27b2b,2f971-2f971:m1:-2b63d,2f972-2f972:m1:-974a,2f973-2f973:m1:-972c,2f974-2f974:m1:-2b61b,2f975-2f975:m1:-969c,2f976-2f976:m1:-279fc,2f977-2f977:m1:-9639,2f978-2f978:m1:-279e3,2f979-2f979:m1:-2797f,2f97a-2f97a:m1:-27975,2f97b-2f97b:m1:-94a1,2f97c-2f97c:m1:-9459,2f97d-2f97d:m1:-2791d,2f97e-2f97e:m1:-93d6,2f97f-2f97f:m1:-2790f,2f980-2f980:m1:-c621,2f981-2f981:m1:-2b5ac,2f982-2f982:m1:-278d0,2f983-2f983:m1:-27880,2f984-2f984:m1:-2b579,2f985-2f985:m1:-27847,2f986-2f986:m1:-29ed1,2f987-2f987:m1:-91e0,2f988-2f988:m1:-91d3,2f989-2f989:m1:-c5f6,2f98a-2f98a:m1:-c5ee,2f98b-2f98b:m1:-2778a,2f98c-2f98c:m1:-27788,2f98d-2f98d:m1:-269ef,2f98e-2f98e:m1:-2b523,2f98f-2f98f:m1:-276fe," ++
  "2f990-2f990:m1:-27705,2f991-2f991:m1:-276f4,2f992-2f992:m1:-2a6df,2f993-2f993:m1:-276e2,2f994-2f994:m1:-276e1,2f995-2f995:m1:-276d8,2f996-2f996:m1:-276b0,2f997-2f997:m1:-8e5b,2f998-2f998:m1:-276b3,2f999-2f999:m1:-2767c,2f99a-2f99a:m1:-27637,2f99b-2f99b:m1:-275ee,2f99c-2f99c:m1:-27679,2f99d-2f99d:m1:-275e0,2f99e-2f99e:m1:-275b7,2f99f-2f99f:m1:-27548,2f9a0-2f9a0:m1:-2764d,2f9a1-2f9a1:m1:-275d7,2f9a2-2f9a2:m1:-275d6,2f9a3-2f9a3:m1:-275c7,2f9a4-2f9a4:m1:-8d6e,2f9a5-2f9a5:m1:-8c3a,2f9a6-2f9a6:m1:-8cd1,2f9a7-2f9a7:m1:-2b47c,2f9a8-2f9a8:m1:-274b7,2f9a9-2f9a9:m1:-274b6,2f9aa-2f9aa:m1:-27494,2f9ab-2f9ab:m1:-85e1,2f9ac-2f9ac:m1:-27448,2f9ad-2f9ad:m1:-8a81,2f9ae-2f9ae:m1:-2b451,2f9af-2f9af:m1:-2b44e,2f9b0-2f9b0:m1:-89ff,2f9b1-2f9b1:m1:-88df,2f9b2-2f9b2:m1:-2b447,2f9b3-2f9b3:m1:-27363,2f9b4-2f9b4:m1:-27358,2f9b5-2f9b5:m1:-2734e,2f9b6-2f9b6:m1:-2734d,2f9b7-2f9b7:m1:-2730e,2f9b8-2f9b8:m1:-27330,2f9b9-2f9b9:m1:-272ab,2f9ba-2f9ba:m1:-272d8,2f9bb-2f9bb:m1:-27242,2f9bc-2f9bc:m1:-27294," ++
  "2f9bd-2f9bd:m1:-27252,2f9be-2f9be:m1:-27238,2f9bf-2f9bf:m1:-2b3e8,2f9c0-2f9c0:m1:-271df,2f9c1-2f9c1:m1:-271c0,2f9c2-2f9c2:m1:-2b3c9,2f9c3-2f9c3:m1:-27163,2f9c4-2f9c4:m1:-27161,2f9c5-2f9c5:m1:-835e,2f9c6-2f9c6:m1:-270ef,2f9c7-2f9c7:m1:-270e9,2f9c8-2f9c8:m1:-2b393,2f9c9-2f9c9:m1:-270cf,2f9ca-2f9ca:m1:-2c50f,2f9cb-2f9cb:m1:-811d,2f9cc-2f9cc:m1:-8066,2f9cd-2f9cd:m1:-2b30f,2f9ce-2f9ce:m1:-2b307,2f9cf-2f9cf:m1:-26f2f,2f9d0-2f9d0:m1:-26ee3,2f9d1-2f9d1:m1:-26e47,2f9d2-2f9d2:m1:-26d7d,2f9d3-2f9d3:m1:-7d2b,2f9d4-2f9d4:m1:-26d29,2f9d5-2f9d5:m1:-26d14,2f9d6-2f9d6:m1:-26cbb,2f9d7-2f9d7:m1:-26c60,2f9d8-2f9d8:m1:-7aa9,2f9d9-2f9d9:m1:-f1d5,2f9da-2f9da:m1:-26c0f,2f9db-2f9db:m1:-26c1f,2f9dc-2f9dc:m1:-26bec,2f9dd-2f9dd:m1:-f0ff,2f9de-2f9de:m1:-26b0a,2f9df-2f9df:m1:-26aa7,2f9e0-2f9e0:m1:-740e,2f9e1-2f9e1:m1:-73f4,2f9e2-2f9e2:m1:-2694e,2f9e3-2f9e3:m1:-268f2,2f9e4-2f9e4:m1:-268d3,2f9e5-2f9e5:m1:-72b7,2f9e6-2f9e6:m1:-268cb,2f9e7-2f9e7:m1:-267af,2f9e8-2f9e9:m1:-26711,2f9ea-2f9ea:m1:-2676e," ++
  "2f9eb-2f9eb:m1:-265f2,2f9ec-2f9ec:m1:-265d7,2f9ed-2f9ed:m1:-6df3,2f9ee-2f9ee:m1:-26463,2f9ef-2f9ef:m1:-2b05a,2f9f0-2f9f0:m1:-26439,2f9f1-2f9f1:m1:-6c7a,2f9f2-2f9f2:m1:-2b00c,2f9f3-2f9f3:m1:-26330,2f9f4-2f9f4:m1:-29c42,2f9f5-2f9f5:m1:-262d2,2f9f6-2f9f6:m1:-68b1,2f9f7-2f9f7:m1:-67dd,2f9f8-2f9f8:m1:-2af8a,2f9f9-2f9f9:m1:-2af83,2f9fa-2f9fa:m1:-2621a,2f9fb-2f9fb:m1:-65f1,2f9fc-2f9fc:m1:-2af4a,2f9fd-2f9fd:m1:-6567,2f9fe-2f9ff:s:980b,2fa00-2fa00:m1:-261d7,2fa01-2fa01:m1:-644b,2fa02-2fa02:m1:-26120,2fa03-2fa03:m1:-2aed0,2fa04-2fa04:m1:-260db,2fa05-2fa05:m1:-2605e,2fa06-2fa06:m1:-26044,2fa07-2fa07:m1:-26009,2fa08-2fa08:m1:-2ae3a,2fa09-2fa09:m1:-5ed9,2fa0a-2fa0a:m1:-25ef8,2fa0b-2fa0b:m1:-25dcb,2fa0c-2fa0c:m1:-25d0f,2fa0d-2fa0d:m1:-2ad3f,2fa0e-2fa0e:m1:-2ad21,2fa0f-2fa0f:m1:-25ca8,2fa10-2fa10:m1:-5942,2fa11-2fa11:m1:-2ad19,2fa12-2fa12:m1:-590d,2fa13-2fa13:m1:-5805,2fa14-2fa14:m1:-5783,2fa15-2fa15:m1:-25b5a,2fa16-2fa16:m1:-2acc0,2fa17-2fa17:m1:-25b1e,2fa18-2fa18:m1:-25b1a,2fa19-2fa19:m1:-25b14," ++
  "2fa1a-2fa1a:m1:-25b0b,2fa1b-2fa1b:m1:-25b05,2fa1c-2fa1c:m1:-25ae1,2fa1d-2fa1d:m1:-541d,2fa1e-2ffff:x,3134b-3134f:x,3347a-e00ff:x,e0100-e01ef:i,e01f0-10ffff:x"

end HandlePool.Url
