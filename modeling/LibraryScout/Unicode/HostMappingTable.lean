import LibraryScout.Unicode.Rows

/-!
Contract: what characters of host names are read as.

Code points are hexadecimal. A character that no table names stands for itself, if need be in
composed form.
-/

namespace LibraryScout.Unicode

/-- Characters that each stand for one other: the first and last of a range, the step
from one to the next, and what the first stands for; the others follow in the same step. -/
def steppedRows : List String :=
  ["41.5A.1.61 A0.A0.1.20 AA.AA.1.61 B2.B3.1.32 B5.B5.1.3BC B9.B9.1.31 BA.BA.1.6F C0.D6.1.E0",
   "D8.DE.1.F8 100.12E.2.101 134.136.2.135 139.13D.2.13A 141.147.2.142 14A.176.2.14B",
   "178.178.1.FF 179.17D.2.17A 17F.17F.1.73 181.181.1.253 182.184.2.183 186.186.1.254",
   "187.187.1.188 189.18A.1.256 18B.18B.1.18C 18E.18E.1.1DD 18F.18F.1.259 190.190.1.25B",
   "191.191.1.192 193.193.1.260 194.194.1.263 196.196.1.269 197.197.1.268 198.198.1.199",
   "19C.19C.1.26F 19D.19D.1.272 19F.19F.1.275 1A0.1A4.2.1A1 1A6.1A6.1.280 1A7.1A7.1.1A8",
   "1A9.1A9.1.283 1AC.1AC.1.1AD 1AE.1AE.1.288 1AF.1AF.1.1B0 1B1.1B2.1.28A 1B3.1B5.2.1B4",
   "1B7.1B7.1.292 1B8.1B8.1.1B9 1BC.1BC.1.1BD 1CD.1DB.2.1CE 1DE.1EE.2.1DF 1F4.1F4.1.1F5",
   "1F6.1F6.1.195 1F7.1F7.1.1BF 1F8.21E.2.1F9 220.220.1.19E 222.232.2.223 23A.23A.1.2C65",
   "23B.23B.1.23C 23D.23D.1.19A 23E.23E.1.2C66 241.241.1.242 243.243.1.180 244.244.1.289",
   "245.245.1.28C 246.24E.2.247 2B0.2B2.2.68 2B1.2B1.1.266 2B3.2B3.1.72 2B4.2B4.1.279",
   "2B5.2B5.1.27B 2B6.2B6.1.281 2B7.2B7.1.77 2B8.2B8.1.79 2E0.2E0.1.263 2E1.2E1.1.6C",
   "2E2.2E2.1.73 2E3.2E3.1.78 2E4.2E4.1.295 345.345.1.3B9 370.372.2.371 376.376.1.377",
   "37F.37F.1.3F3 386.386.1.3AC 388.38A.1.3AD 38C.38C.1.3CC 38E.38F.1.3CD 391.3A1.1.3B1",
   "3A3.3AB.1.3C3 3CF.3CF.1.3D7 3D0.3D0.1.3B2 3D1.3D1.1.3B8 3D2.3D2.1.3C5 3D3.3D3.1.3CD",
   "3D4.3D4.1.3CB 3D5.3D5.1.3C6 3D6.3D6.1.3C0 3D8.3EE.2.3D9 3F0.3F0.1.3BA 3F1.3F1.1.3C1",
   "3F2.3F2.1.3C3 3F4.3F4.1.3B8 3F5.3F5.1.3B5 3F7.3F7.1.3F8 3F9.3F9.1.3C3 3FA.3FA.1.3FB",
   "3FD.3FF.1.37B 400.40F.1.450 410.42F.1.430 460.480.2.461 48A.4BE.2.48B 4C0.4C0.1.4CF",
   "4C1.4CD.2.4C2 4D0.52E.2.4D1 531.556.1.561 F0C.F0C.1.F0B 10A0.10C5.1.2D00 10C7.10C7.1.2D27",
   "10CD.10CD.1.2D2D 10FC.10FC.1.10DC 13F8.13FD.1.13F0 1C80.1C80.1.432 1C81.1C81.1.434",
   "1C82.1C82.1.43E 1C83.1C84.1.441 1C85.1C85.1.442 1C86.1C86.1.44A 1C87.1C87.1.463",
   "1C88.1C88.1.A64B 1C89.1C89.1.1C8A 1C90.1CBA.1.10D0 1CBD.1CBF.1.10FD 1D2C.1D2C.1.61",
   "1D2D.1D2D.1.E6 1D2E.1D30.2.62 1D31.1D39.2.65 1D32.1D32.1.1DD 1D34.1D3A.2.68 1D3C.1D3C.1.6F",
   "1D3D.1D3D.1.223 1D3E.1D3E.1.70 1D3F.1D3F.1.72 1D40.1D41.1.74 1D42.1D42.1.77 1D43.1D43.1.61",
   "1D44.1D45.1.250 1D46.1D46.1.1D02 1D47.1D47.1.62 1D48.1D49.1.64 1D4A.1D4A.1.259",
   "1D4B.1D4C.1.25B 1D4D.1D4D.1.67 1D4F.1D4F.1.6B 1D50.1D52.2.6D 1D51.1D51.1.14B 1D53.1D53.1.254",
   "1D54.1D55.1.1D16 1D56.1D56.1.70 1D57.1D58.1.74 1D59.1D59.1.1D1D 1D5A.1D5A.1.26F",
   "1D5B.1D5B.1.76 1D5C.1D5C.1.1D25 1D5D.1D5F.1.3B2 1D60.1D61.1.3C6 1D62.1D62.1.69",
   "1D63.1D63.1.72 1D64.1D65.1.75 1D66.1D67.1.3B2 1D68.1D68.1.3C1 1D69.1D6A.1.3C6",
   "1D78.1D78.1.43D 1D9B.1D9B.1.252 1D9C.1D9C.1.63 1D9D.1D9D.1.255 1D9E.1D9E.1.F0",
   "1D9F.1D9F.1.25C 1DA0.1DA0.1.66 1DA1.1DA1.1.25F 1DA2.1DA2.1.261 1DA3.1DA3.1.265",
   "1DA4.1DA6.1.268 1DA7.1DA7.1.1D7B 1DA8.1DA8.1.29D 1DA9.1DA9.1.26D 1DAA.1DAA.1.1D85",
   "1DAB.1DAB.1.29F 1DAC.1DAC.1.271 1DAD.1DAD.1.270 1DAE.1DB1.1.272 1DB2.1DB2.1.278",
   "1DB3.1DB4.1.282 1DB5.1DB5.1.1AB 1DB6.1DB7.1.289 1DB8.1DB8.1.1D1C 1DB9.1DBA.1.28B",
   "1DBB.1DBB.1.7A 1DBC.1DBE.1.290 1DBF.1DBF.1.3B8 1E00.1E94.2.1E01 1E9B.1E9B.1.1E61",
   "1E9E.1E9E.1.DF 1EA0.1EFE.2.1EA1 1F08.1F0F.1.1F00 1F18.1F1D.1.1F10 1F28.1F2F.1.1F20",
   "1F38.1F3F.1.1F30 1F48.1F4D.1.1F40 1F59.1F5F.2.1F51 1F68.1F6F.1.1F60 1FB8.1FB9.1.1FB0",
   "1FBA.1FBA.1.1F70 1FBB.1FBB.1.3AC 1FC8.1FCA.2.1F72 1FC9.1FC9.1.3AD 1FCB.1FCB.1.3AE",
   "1FD8.1FD9.1.1FD0 1FDA.1FDA.1.1F76 1FDB.1FDB.1.3AF 1FE8.1FE9.1.1FE0 1FEA.1FEA.1.1F7A",
   "1FEB.1FEB.1.3CD 1FEC.1FEC.1.1FE5 1FF8.1FF8.1.1F78 1FF9.1FFB.2.3CC 1FFA.1FFA.1.1F7C",
   "2000.2000.1.20 2001.2001.1.20 2002.2002.1.20 2003.2003.1.20 2004.2004.1.20 2005.2005.1.20",
   "2006.2006.1.20 2007.2007.1.20 2008.2008.1.20 2009.2009.1.20 200A.200A.1.20 2011.2011.1.2010",
   "202F.202F.1.20 205F.205F.1.20 2070.2070.1.30 2071.2071.1.69 2074.2079.1.34 207A.207A.1.2B",
   "207B.207B.1.2212 207C.207C.1.3D 207D.207E.1.28 207F.207F.1.6E 2080.2089.1.30 208A.208A.1.2B",
   "208B.208B.1.2212 208C.208C.1.3D 208D.208E.1.28 2090.2090.1.61 2091.2091.1.65 2092.2092.1.6F",
   "2093.2093.1.78 2094.2094.1.259 2095.2095.1.68 2096.2099.1.6B 209A.209A.1.70 209B.209C.1.73",
   "2102.2102.1.63 2107.2107.1.25B 210A.210B.1.67 210C.210C.1.68 210D.210D.1.68 210E.210E.1.68",
   "210F.210F.1.127 2110.2110.1.69 2111.2111.1.69 2112.2112.1.6C 2113.2115.2.6C 2119.211B.1.70",
   "211C.211C.1.72 211D.211D.1.72 2124.2124.1.7A 2126.2126.1.3C9 2128.2128.1.7A 212A.212A.1.6B",
   "212B.212B.1.E5 212C.212D.1.62 212F.212F.1.65 2130.2131.1.65 2132.2132.1.214E 2133.2133.1.6D",
   "2134.2134.1.6F 2135.2138.1.5D0 2139.2139.1.69 213C.213C.1.3C0 213D.213D.1.3B3",
   "213E.213E.1.3B3 213F.213F.1.3C0 2140.2140.1.2211 2145.2145.1.64 2146.2147.1.64",
   "2148.2149.1.69 2160.2160.1.69 2164.2164.1.76 2169.2169.1.78 216C.216C.1.6C 216D.216E.1.63",
   "216F.216F.1.6D 2170.2170.1.69 2174.2174.1.76 2179.2179.1.78 217C.217C.1.6C 217D.217E.1.63",
   "217F.217F.1.6D 2183.2183.1.2184 2460.2468.1.31 24B6.24CF.1.61 24D0.24E9.1.61 24EA.24EA.1.30",
   "2C00.2C2F.1.2C30 2C60.2C60.1.2C61 2C62.2C62.1.26B 2C63.2C63.1.1D7D 2C64.2C64.1.27D",
   "2C67.2C6B.2.2C68 2C6D.2C6D.1.251 2C6E.2C6E.1.271 2C6F.2C6F.1.250 2C70.2C70.1.252",
   "2C72.2C72.1.2C73 2C75.2C75.1.2C76 2C7C.2C7C.1.6A 2C7D.2C7D.1.76 2C7E.2C7F.1.23F",
   "2C80.2CE2.2.2C81 2CEB.2CED.2.2CEC 2CF2.2CF2.1.2CF3 2D6F.2D6F.1.2D61 2E9F.2E9F.1.6BCD",
   "2EF3.2EF3.1.9F9F 2F00.2F00.1.4E00 2F01.2F01.1.4E28 2F02.2F02.1.4E36 2F03.2F03.1.4E3F",
   "2F04.2F04.1.4E59 2F05.2F05.1.4E85 2F06.2F06.1.4E8C 2F07.2F07.1.4EA0 2F08.2F08.1.4EBA",
   "2F09.2F09.1.513F 2F0A.2F0A.1.5165 2F0B.2F0B.1.516B 2F0C.2F0C.1.5182 2F0D.2F0D.1.5196",
   "2F0E.2F0E.1.51AB 2F0F.2F0F.1.51E0 2F10.2F10.1.51F5 2F11.2F11.1.5200 2F12.2F12.1.529B",
   "2F13.2F13.1.52F9 2F14.2F14.1.5315 2F15.2F15.1.531A 2F16.2F16.1.5338 2F17.2F17.1.5341",
   "2F18.2F18.1.535C 2F19.2F19.1.5369 2F1A.2F1A.1.5382 2F1B.2F1B.1.53B6 2F1C.2F1C.1.53C8",
   "2F1D.2F1D.1.53E3 2F1E.2F1E.1.56D7 2F1F.2F1F.1.571F 2F20.2F20.1.58EB 2F21.2F21.1.5902",
   "2F22.2F22.1.590A 2F23.2F23.1.5915 2F24.2F24.1.5927 2F25.2F25.1.5973 2F26.2F26.1.5B50",
   "2F27.2F27.1.5B80 2F28.2F28.1.5BF8 2F29.2F29.1.5C0F 2F2A.2F2A.1.5C22 2F2B.2F2B.1.5C38",
   "2F2C.2F2C.1.5C6E 2F2D.2F2D.1.5C71 2F2E.2F2E.1.5DDB 2F2F.2F2F.1.5DE5 2F30.2F30.1.5DF1",
   "2F31.2F31.1.5DFE 2F32.2F32.1.5E72 2F33.2F33.1.5E7A 2F34.2F34.1.5E7F 2F35.2F35.1.5EF4",
   "2F36.2F36.1.5EFE 2F37.2F37.1.5F0B 2F38.2F38.1.5F13 2F39.2F39.1.5F50 2F3A.2F3A.1.5F61",
   "2F3B.2F3B.1.5F73 2F3C.2F3C.1.5FC3 2F3D.2F3D.1.6208 2F3E.2F3E.1.6236 2F3F.2F3F.1.624B",
   "2F40.2F40.1.652F 2F41.2F41.1.6534 2F42.2F42.1.6587 2F43.2F43.1.6597 2F44.2F44.1.65A4",
   "2F45.2F45.1.65B9 2F46.2F46.1.65E0 2F47.2F47.1.65E5 2F48.2F48.1.66F0 2F49.2F49.1.6708",
   "2F4A.2F4A.1.6728 2F4B.2F4B.1.6B20 2F4C.2F4C.1.6B62 2F4D.2F4D.1.6B79 2F4E.2F4E.1.6BB3",
   "2F4F.2F4F.1.6BCB 2F50.2F50.1.6BD4 2F51.2F51.1.6BDB 2F52.2F52.1.6C0F 2F53.2F53.1.6C14",
   "2F54.2F54.1.6C34 2F55.2F55.1.706B 2F56.2F56.1.722A 2F57.2F57.1.7236 2F58.2F58.1.723B",
   "2F59.2F59.1.723F 2F5A.2F5A.1.7247 2F5B.2F5B.1.7259 2F5C.2F5C.1.725B 2F5D.2F5D.1.72AC",
   "2F5E.2F5E.1.7384 2F5F.2F5F.1.7389 2F60.2F60.1.74DC 2F61.2F61.1.74E6 2F62.2F62.1.7518",
   "2F63.2F63.1.751F 2F64.2F64.1.7528 2F65.2F65.1.7530 2F66.2F66.1.758B 2F67.2F67.1.7592",
   "2F68.2F68.1.7676 2F69.2F69.1.767D 2F6A.2F6A.1.76AE 2F6B.2F6B.1.76BF 2F6C.2F6C.1.76EE",
   "2F6D.2F6D.1.77DB 2F6E.2F6E.1.77E2 2F6F.2F6F.1.77F3 2F70.2F70.1.793A 2F71.2F71.1.79B8",
   "2F72.2F72.1.79BE 2F73.2F73.1.7A74 2F74.2F74.1.7ACB 2F75.2F75.1.7AF9 2F76.2F76.1.7C73",
   "2F77.2F77.1.7CF8 2F78.2F78.1.7F36 2F79.2F79.1.7F51 2F7A.2F7A.1.7F8A 2F7B.2F7B.1.7FBD",
   "2F7C.2F7C.1.8001 2F7D.2F7D.1.800C 2F7E.2F7E.1.8012 2F7F.2F7F.1.8033 2F80.2F80.1.807F",
   "2F81.2F81.1.8089 2F82.2F82.1.81E3 2F83.2F83.1.81EA 2F84.2F84.1.81F3 2F85.2F85.1.81FC",
   "2F86.2F86.1.820C 2F87.2F87.1.821B 2F88.2F88.1.821F 2F89.2F89.1.826E 2F8A.2F8A.1.8272",
   "2F8B.2F8B.1.8278 2F8C.2F8C.1.864D 2F8D.2F8D.1.866B 2F8E.2F8E.1.8840 2F8F.2F8F.1.884C",
   "2F90.2F90.1.8863 2F91.2F91.1.897E 2F92.2F92.1.898B 2F93.2F93.1.89D2 2F94.2F94.1.8A00",
   "2F95.2F95.1.8C37 2F96.2F96.1.8C46 2F97.2F97.1.8C55 2F98.2F98.1.8C78 2F99.2F99.1.8C9D",
   "2F9A.2F9A.1.8D64 2F9B.2F9B.1.8D70 2F9C.2F9C.1.8DB3 2F9D.2F9D.1.8EAB 2F9E.2F9E.1.8ECA",
   "2F9F.2F9F.1.8F9B 2FA0.2FA0.1.8FB0 2FA1.2FA1.1.8FB5 2FA2.2FA2.1.9091 2FA3.2FA3.1.9149",
   "2FA4.2FA4.1.91C6 2FA5.2FA5.1.91CC 2FA6.2FA6.1.91D1 2FA7.2FA7.1.9577 2FA8.2FA8.1.9580",
   "2FA9.2FA9.1.961C 2FAA.2FAA.1.96B6 2FAB.2FAB.1.96B9 2FAC.2FAC.1.96E8 2FAD.2FAD.1.9751",
   "2FAE.2FAE.1.975E 2FAF.2FAF.1.9762 2FB0.2FB0.1.9769 2FB1.2FB1.1.97CB 2FB2.2FB2.1.97ED",
   "2FB3.2FB3.1.97F3 2FB4.2FB4.1.9801 2FB5.2FB5.1.98A8 2FB6.2FB6.1.98DB 2FB7.2FB7.1.98DF",
   "2FB8.2FB8.1.9996 2FB9.2FB9.1.9999 2FBA.2FBA.1.99AC 2FBB.2FBB.1.9AA8 2FBC.2FBC.1.9AD8",
   "2FBD.2FBD.1.9ADF 2FBE.2FBE.1.9B25 2FBF.2FBF.1.9B2F 2FC0.2FC0.1.9B32 2FC1.2FC1.1.9B3C",
   "2FC2.2FC2.1.9B5A 2FC3.2FC3.1.9CE5 2FC4.2FC4.1.9E75 2FC5.2FC5.1.9E7F 2FC6.2FC6.1.9EA5",
   "2FC7.2FC7.1.9EBB 2FC8.2FC8.1.9EC3 2FC9.2FC9.1.9ECD 2FCA.2FCA.1.9ED1 2FCB.2FCB.1.9EF9",
   "2FCC.2FCC.1.9EFD 2FCD.2FCD.1.9F0E 2FCE.2FCE.1.9F13 2FCF.2FCF.1.9F20 2FD0.2FD0.1.9F3B",
   "2FD1.2FD1.1.9F4A 2FD2.2FD2.1.9F52 2FD3.2FD3.1.9F8D 2FD4.2FD4.1.9F9C 2FD5.2FD5.1.9FA0",
   "3000.3000.1.20 3002.3002.1.2E 3036.3036.1.3012 3038.3038.1.5341 3039.303A.1.5344",
   "3131.3132.1.1100 3133.3135.2.11AA 3134.3134.1.1102 3136.3136.1.11AD 3137.3139.1.1103",
   "313A.313F.1.11B0 3140.3140.1.111A 3141.3143.1.1106 3144.3144.1.1121 3145.314E.1.1109",
   "314F.3163.1.1161 3165.3166.1.1114 3167.3168.1.11C7 3169.3169.1.11CC 316A.316A.1.11CE",
   "316B.316B.1.11D3 316C.316C.1.11D7 316D.316D.1.11D9 316E.316E.1.111C 316F.316F.1.11DD",
   "3170.3170.1.11DF 3171.3172.1.111D 3173.3173.1.1120 3174.3175.1.1122 3176.3176.1.1127",
   "3177.3177.1.1129 3178.317C.1.112B 317D.317D.1.1132 317E.317E.1.1136 317F.317F.1.1140",
   "3180.3180.1.1147 3181.3181.1.114C 3182.3183.1.11F1 3184.3186.1.1157 3187.3188.1.1184",
   "3189.3189.1.1188 318A.318B.1.1191 318C.318C.1.1194 318D.318D.1.119E 318E.318E.1.11A1",
   "3192.3192.1.4E00 3193.3193.1.4E8C 3194.3194.1.4E09 3195.3195.1.56DB 3196.3196.1.4E0A",
   "3197.3197.1.4E2D 3198.3198.1.4E0B 3199.3199.1.7532 319A.319A.1.4E59 319B.319B.1.4E19",
   "319C.319C.1.4E01 319D.319D.1.5929 319E.319E.1.5730 319F.319F.1.4EBA 3244.3244.1.554F",
   "3245.3245.1.5E7C 3246.3246.1.6587 3247.3247.1.7B8F 3260.3260.1.1100 3261.3262.1.1102",
   "3263.3265.1.1105 3266.3266.1.1109 3267.3268.1.110B 3269.326D.1.110E 326E.326E.1.AC00",
   "326F.326F.1.B098 3270.3270.1.B2E4 3271.3271.1.B77C 3272.3272.1.B9C8 3273.3273.1.BC14",
   "3274.3274.1.C0AC 3275.3275.1.C544 3276.3276.1.C790 3277.3277.1.CC28 3278.3278.1.CE74",
   "3279.3279.1.D0C0 327A.327A.1.D30C 327B.327B.1.D558 327E.327E.1.C6B0 3280.3280.1.4E00",
   "3281.3281.1.4E8C 3282.3282.1.4E09 3283.3283.1.56DB 3284.3284.1.4E94 3285.3285.1.516D",
   "3286.3286.1.4E03 3287.3287.1.516B 3288.3288.1.4E5D 3289.3289.1.5341 328A.328A.1.6708",
   "328B.328B.1.706B 328C.328C.1.6C34 328D.328D.1.6728 328E.328E.1.91D1 328F.328F.1.571F",
   "3290.3290.1.65E5 3291.3291.1.682A 3292.3292.1.6709 3293.3293.1.793E 3294.3294.1.540D",
   "3295.3295.1.7279 3296.3296.1.8CA1 3297.3297.1.795D 3298.3298.1.52B4 3299.3299.1.79D8",
   "329A.329A.1.7537 329B.329B.1.5973 329C.329C.1.9069 329D.329D.1.512A 329E.329E.1.5370",
   "329F.329F.1.6CE8 32A0.32A0.1.9805 32A1.32A1.1.4F11 32A2.32A2.1.5199 32A3.32A3.1.6B63",
   "32A4.32A4.1.4E0A 32A5.32A5.1.4E2D 32A6.32A6.1.4E0B 32A7.32A7.1.5DE6 32A8.32A8.1.53F3",
   "32A9.32A9.1.533B 32AA.32AA.1.5B97 32AB.32AB.1.5B66 32AC.32AC.1.76E3 32AD.32AD.1.4F01",
   "32AE.32AE.1.8CC7 32AF.32AF.1.5354 32B0.32B0.1.591C 32D0.32D0.1.30A2 32D1.32D1.1.30A4",
   "32D2.32D2.1.30A6 32D3.32D3.1.30A8 32D4.32D5.1.30AA 32D6.32D6.1.30AD 32D7.32D7.1.30AF",
   "32D8.32D8.1.30B1 32D9.32D9.1.30B3 32DA.32DA.1.30B5 32DB.32DB.1.30B7 32DC.32DC.1.30B9",
   "32DD.32DD.1.30BB 32DE.32DE.1.30BD 32DF.32DF.1.30BF 32E0.32E0.1.30C1 32E1.32E1.1.30C4",
   "32E2.32E2.1.30C6 32E3.32E3.1.30C8 32E4.32E9.1.30CA 32EA.32EA.1.30D2 32EB.32EB.1.30D5",
   "32EC.32EC.1.30D8 32ED.32ED.1.30DB 32EE.32F2.1.30DE 32F3.32F3.1.30E4 32F4.32F4.1.30E6",
   "32F5.32FA.1.30E8 32FB.32FE.1.30EF A640.A66C.2.A641 A680.A69A.2.A681 A69C.A69C.1.44A",
   "A69D.A69D.1.44C A722.A72E.2.A723 A732.A76E.2.A733 A770.A770.1.A76F A779.A77B.2.A77A",
   "A77D.A77D.1.1D79 A77E.A786.2.A77F A78B.A78B.1.A78C A78D.A78D.1.265 A790.A792.2.A791",
   "A796.A7A8.2.A797 A7AA.A7AA.1.266 A7AB.A7AB.1.25C A7AC.A7AC.1.261 A7AD.A7AD.1.26C",
   "A7AE.A7AE.1.26A A7B0.A7B0.1.29E A7B1.A7B1.1.287 A7B2.A7B2.1.29D A7B3.A7B3.1.AB53",
   "A7B4.A7C2.2.A7B5 A7C4.A7C4.1.A794 A7C5.A7C5.1.282 A7C6.A7C6.1.1D8E A7C7.A7C9.2.A7C8",
   "A7CB.A7CB.1.264 A7CC.A7DA.2.A7CD A7DC.A7DC.1.19B A7F1.A7F1.1.73 A7F2.A7F2.1.63",
   "A7F3.A7F3.1.66 A7F4.A7F4.1.71 A7F5.A7F5.1.A7F6 A7F8.A7F8.1.127 A7F9.A7F9.1.153",
   "AB5C.AB5C.1.A727 AB5D.AB5D.1.AB37 AB5E.AB5E.1.26B AB5F.AB5F.1.AB52 AB69.AB69.1.28D",
   "AB70.ABBF.1.13A0 FB20.FB20.1.5E2 FB21.FB21.1.5D0 FB22.FB23.1.5D3 FB24.FB26.1.5DB",
   "FB27.FB27.1.5E8 FB28.FB28.1.5EA FB29.FB29.1.2B FB50.FB50.1.671 FB51.FB51.1.671",
   "FB52.FB52.1.67B FB53.FB53.1.67B FB54.FB54.1.67B FB55.FB55.1.67B FB56.FB56.1.67E",
   "FB57.FB57.1.67E FB58.FB5A.2.67E FB59.FB5B.2.67E FB5C.FB5C.1.680 FB5D.FB5D.1.680",
   "FB5E.FB5E.1.67A FB5F.FB5F.1.67A FB60.FB60.1.67A FB61.FB61.1.67A FB62.FB62.1.67F",
   "FB63.FB63.1.67F FB64.FB64.1.67F FB65.FB65.1.67F FB66.FB66.1.679 FB67.FB67.1.679",
   "FB68.FB68.1.679 FB69.FB69.1.679 FB6A.FB6A.1.6A4 FB6B.FB6B.1.6A4 FB6C.FB6E.2.6A4",
   "FB6D.FB6F.2.6A4 FB70.FB70.1.6A6 FB71.FB71.1.6A6 FB72.FB72.1.684 FB73.FB73.1.684",
   "FB74.FB74.1.684 FB75.FB75.1.684 FB76.FB76.1.683 FB77.FB77.1.683 FB78.FB78.1.683",
   "FB79.FB79.1.683 FB7A.FB7A.1.686 FB7B.FB7B.1.686 FB7C.FB7C.1.686 FB7D.FB7E.1.686",
   "FB7F.FB7F.1.687 FB80.FB80.1.687 FB81.FB81.1.687 FB82.FB82.1.68D FB83.FB83.1.68D",
   "FB84.FB86.2.68C FB85.FB87.2.68C FB88.FB88.1.688 FB89.FB89.1.688 FB8A.FB8A.1.698",
   "FB8B.FB8B.1.698 FB8C.FB8C.1.691 FB8D.FB8D.1.691 FB8E.FB8E.1.6A9 FB8F.FB8F.1.6A9",
   "FB90.FB90.1.6A9 FB91.FB91.1.6A9 FB92.FB92.1.6AF FB93.FB93.1.6AF FB94.FB94.1.6AF",
   "FB95.FB95.1.6AF FB96.FB96.1.6B3 FB97.FB97.1.6B3 FB98.FB98.1.6B3 FB99.FB99.1.6B3",
   "FB9A.FB9A.1.6B1 FB9B.FB9B.1.6B1 FB9C.FB9C.1.6B1 FB9D.FB9D.1.6B1 FB9E.FB9E.1.6BA",
   "FB9F.FBA0.1.6BA FBA1.FBA1.1.6BB FBA2.FBA2.1.6BB FBA3.FBA3.1.6BB FBA4.FBA4.1.6C0",
   "FBA5.FBA6.1.6C0 FBA7.FBA7.1.6C1 FBA8.FBA8.1.6C1 FBA9.FBA9.1.6C1 FBAA.FBAA.1.6BE",
   "FBAB.FBAB.1.6BE FBAC.FBAC.1.6BE FBAD.FBAD.1.6BE FBAE.FBAE.1.6D2 FBAF.FBB0.1.6D2",
   "FBB1.FBB1.1.6D3 FBD3.FBD3.1.6AD FBD4.FBD4.1.6AD FBD5.FBD5.1.6AD FBD6.FBD6.1.6AD",
   "FBD7.FBD7.1.6C7 FBD8.FBD8.1.6C7 FBD9.FBDB.2.6C6 FBDA.FBDC.2.6C6 FBDE.FBDE.1.6CB",
   "FBDF.FBDF.1.6CB FBE0.FBE0.1.6C5 FBE1.FBE1.1.6C5 FBE2.FBE2.1.6C9 FBE3.FBE3.1.6C9",
   "FBE4.FBE4.1.6D0 FBE5.FBE5.1.6D0 FBE6.FBE6.1.6D0 FBE7.FBE7.1.6D0 FBE8.FBE8.1.649",
   "FBE9.FBE9.1.649 FBFC.FBFC.1.6CC FBFD.FBFD.1.6CC FBFE.FBFE.1.6CC FBFF.FBFF.1.6CC",
   "FE10.FE10.1.2C FE11.FE11.1.3001 FE13.FE14.1.3A FE15.FE15.1.21 FE16.FE16.1.3F",
   "FE17.FE18.1.3016 FE31.FE31.1.2014 FE32.FE32.1.2013 FE33.FE33.1.5F FE34.FE34.1.5F",
   "FE35.FE36.1.28 FE37.FE37.1.7B FE38.FE38.1.7D FE39.FE3A.1.3014 FE3B.FE3C.1.3010",
   "FE3D.FE3E.1.300A FE3F.FE40.1.3008 FE41.FE44.1.300C FE47.FE47.1.5B FE48.FE48.1.5D",
   "FE4D.FE4D.1.5F FE4E.FE4E.1.5F FE4F.FE4F.1.5F FE50.FE50.1.2C FE51.FE51.1.3001 FE54.FE54.1.3B",
   "FE55.FE55.1.3A FE56.FE56.1.3F FE57.FE57.1.21 FE58.FE58.1.2014 FE59.FE5A.1.28 FE5B.FE5B.1.7B",
   "FE5C.FE5C.1.7D FE5D.FE5E.1.3014 FE5F.FE5F.1.23 FE60.FE60.1.26 FE61.FE62.1.2A FE63.FE63.1.2D",
   "FE64.FE64.1.3C FE65.FE65.1.3E FE66.FE66.1.3D FE68.FE68.1.5C FE69.FE6A.1.24 FE6B.FE6B.1.40",
   "FE80.FE81.1.621 FE82.FE83.1.622 FE84.FE85.1.623 FE86.FE87.1.624 FE88.FE89.1.625",
   "FE8A.FE8A.1.626 FE8B.FE8B.1.626 FE8C.FE8D.1.626 FE8E.FE8F.1.627 FE90.FE90.1.628",
   "FE91.FE91.1.628 FE92.FE93.1.628 FE94.FE95.1.629 FE96.FE96.1.62A FE97.FE97.1.62A",
   "FE98.FE99.1.62A FE9A.FE9A.1.62B FE9B.FE9B.1.62B FE9C.FE9D.1.62B FE9E.FE9E.1.62C",
   "FE9F.FE9F.1.62C FEA0.FEA1.1.62C FEA2.FEA2.1.62D FEA3.FEA3.1.62D FEA4.FEA5.1.62D",
   "FEA6.FEA6.1.62E FEA7.FEA7.1.62E FEA8.FEA9.1.62E FEAA.FEAB.1.62F FEAC.FEAD.1.630",
   "FEAE.FEAF.1.631 FEB0.FEB1.1.632 FEB2.FEB2.1.633 FEB3.FEB3.1.633 FEB4.FEB5.1.633",
   "FEB6.FEB6.1.634 FEB7.FEB7.1.634 FEB8.FEB9.1.634 FEBA.FEBA.1.635 FEBB.FEBB.1.635",
   "FEBC.FEBD.1.635 FEBE.FEBE.1.636 FEBF.FEBF.1.636 FEC0.FEC1.1.636 FEC2.FEC2.1.637",
   "FEC3.FEC3.1.637 FEC4.FEC5.1.637 FEC6.FEC6.1.638 FEC7.FEC7.1.638 FEC8.FEC9.1.638",
   "FECA.FECA.1.639 FECB.FECB.1.639 FECC.FECD.1.639 FECE.FECE.1.63A FECF.FECF.1.63A",
   "FED0.FED0.1.63A FED1.FED1.1.641 FED2.FED2.1.641 FED3.FED3.1.641 FED4.FED5.1.641",
   "FED6.FED6.1.642 FED7.FED7.1.642 FED8.FED9.1.642 FEDA.FEDA.1.643 FEDB.FEDB.1.643",
   "FEDC.FEDD.1.643 FEDE.FEDE.1.644 FEDF.FEDF.1.644 FEE0.FEE1.1.644 FEE2.FEE2.1.645",
   "FEE3.FEE3.1.645 FEE4.FEE5.1.645 FEE6.FEE6.1.646 FEE7.FEE7.1.646 FEE8.FEE9.1.646",
   "FEEA.FEEA.1.647 FEEB.FEEB.1.647 FEEC.FEED.1.647 FEEE.FEEF.1.648 FEF0.FEF1.1.649",
   "FEF2.FEF2.1.64A FEF3.FEF3.1.64A FEF4.FEF4.1.64A FF01.FF20.1.21 FF21.FF3A.1.61 FF3B.FF5E.1.5B",
   "FF5F.FF60.1.2985 FF61.FF61.1.2E FF62.FF63.1.300C FF64.FF64.1.3001 FF65.FF65.1.30FB",
   "FF66.FF66.1.30F2 FF67.FF67.1.30A1 FF68.FF68.1.30A3 FF69.FF69.1.30A5 FF6A.FF6A.1.30A7",
   "FF6B.FF6B.1.30A9 FF6C.FF6C.1.30E3 FF6D.FF6D.1.30E5 FF6E.FF6E.1.30E7 FF6F.FF6F.1.30C3",
   "FF70.FF70.1.30FC FF71.FF71.1.30A2 FF72.FF72.1.30A4 FF73.FF73.1.30A6 FF74.FF74.1.30A8",
   "FF75.FF76.1.30AA FF77.FF77.1.30AD FF78.FF78.1.30AF FF79.FF79.1.30B1 FF7A.FF7A.1.30B3",
   "FF7B.FF7B.1.30B5 FF7C.FF7C.1.30B7 FF7D.FF7D.1.30B9 FF7E.FF7E.1.30BB FF7F.FF7F.1.30BD",
   "FF80.FF80.1.30BF FF81.FF81.1.30C1 FF82.FF82.1.30C4 FF83.FF83.1.30C6 FF84.FF84.1.30C8",
   "FF85.FF8A.1.30CA FF8B.FF8B.1.30D2 FF8C.FF8C.1.30D5 FF8D.FF8D.1.30D8 FF8E.FF8E.1.30DB",
   "FF8F.FF93.1.30DE FF94.FF94.1.30E4 FF95.FF95.1.30E6 FF96.FF9B.1.30E8 FF9C.FF9C.1.30EF",
   "FF9D.FF9D.1.30F3 FF9E.FF9F.1.3099 FFA1.FFA2.1.1100 FFA3.FFA5.2.11AA FFA4.FFA4.1.1102",
   "FFA6.FFA6.1.11AD FFA7.FFA9.1.1103 FFAA.FFAF.1.11B0 FFB0.FFB0.1.111A FFB1.FFB3.1.1106",
   "FFB4.FFB4.1.1121 FFB5.FFBE.1.1109 FFC2.FFC7.1.1161 FFCA.FFCF.1.1167 FFD2.FFD7.1.116D",
   "FFDA.FFDC.1.1173 FFE0.FFE1.1.A2 FFE2.FFE2.1.AC FFE4.FFE4.1.A6 FFE5.FFE5.1.A5",
   "FFE6.FFE6.1.20A9 FFE8.FFE8.1.2502 FFE9.FFEC.1.2190 FFED.FFED.1.25A0 FFEE.FFEE.1.25CB",
   "10400.10427.1.10428 104B0.104D3.1.104D8 10570.10594.2.10597 10571.10579.2.10598",
   "1057D.10589.2.105A4 1058D.10591.2.105B4 10595.10595.1.105BC 10781.10782.1.2D0",
   "10783.10783.1.E6 10784.10784.1.299 10785.10785.1.253 10787.10789.2.2A3 10788.10788.1.AB66",
   "1078A.1078A.1.2A4 1078B.1078C.1.256 1078D.1078D.1.1D91 1078E.1078E.1.258 1078F.1078F.1.25E",
   "10790.10790.1.2A9 10791.10791.1.264 10792.10792.1.262 10793.10793.1.260 10794.10794.1.29B",
   "10795.10795.1.127 10796.10796.1.29C 10797.10797.1.267 10798.10798.1.284 10799.1079A.1.2AA",
   "1079B.1079B.1.26C 1079C.1079C.1.1DF04 1079D.1079D.1.A78E 1079E.1079E.1.26E",
   "1079F.1079F.1.1DF05 107A0.107A0.1.28E 107A1.107A1.1.1DF06 107A2.107A2.1.F8 107A3.107A4.1.276",
   "107A5.107A5.1.71 107A6.107A6.1.27A 107A7.107A7.1.1DF08 107A8.107A9.1.27D 107AA.107AA.1.280",
   "107AB.107AB.1.2A8 107AC.107AC.1.2A6 107AD.107AD.1.AB67 107AE.107AE.1.2A7 107AF.107AF.1.288",
   "107B0.107B0.1.2C71 107B2.107B2.1.28F 107B3.107B4.1.2A1 107B5.107B5.1.298 107B6.107B8.1.1C0",
   "107B9.107B9.1.1DF0A 107BA.107BA.1.1DF1E 10C80.10CB2.1.10CC0 10D50.10D65.1.10D70",
   "118A0.118BF.1.118C0 16E40.16E5F.1.16E60 16EA0.16EB8.1.16EBB 1CCD6.1CCEF.1.61",
   "1CCF0.1CCF9.1.30 1D400.1D419.1.61 1D41A.1D433.1.61 1D434.1D44D.1.61 1D44E.1D466.2.61",
   "1D44F.1D453.2.62 1D457.1D467.2.6A 1D468.1D481.1.61 1D482.1D49B.1.61 1D49C.1D49E.2.61",
   "1D49F.1D49F.1.64 1D4A2.1D4A2.1.67 1D4A5.1D4A6.1.6A 1D4A9.1D4AC.1.6E 1D4AE.1D4B5.1.73",
   "1D4B6.1D4B9.1.61 1D4BB.1D4CF.2.66 1D4BE.1D4C2.2.69 1D4C6.1D4CE.2.71 1D4D0.1D4E9.1.61",
   "1D4EA.1D503.1.61 1D504.1D505.1.61 1D507.1D50A.1.64 1D50D.1D514.1.6A 1D516.1D51C.1.73",
   "1D51E.1D537.1.61 1D538.1D539.1.61 1D53B.1D53E.1.64 1D540.1D544.1.69 1D546.1D546.1.6F",
   "1D54A.1D550.1.73 1D552.1D56B.1.61 1D56C.1D585.1.61 1D586.1D59F.1.61 1D5A0.1D5B9.1.61",
   "1D5BA.1D5D3.1.61 1D5D4.1D5ED.1.61 1D5EE.1D607.1.61 1D608.1D621.1.61 1D622.1D63B.1.61",
   "1D63C.1D655.1.61 1D656.1D66F.1.61 1D670.1D689.1.61 1D68A.1D6A3.1.61 1D6A4.1D6A4.1.131",
   "1D6A5.1D6A5.1.237 1D6A8.1D6B8.1.3B1 1D6B9.1D6B9.1.3B8 1D6BA.1D6C0.1.3C3 1D6C1.1D6C1.1.2207",
   "1D6C2.1D6D2.1.3B1 1D6D3.1D6D3.1.3C3 1D6D4.1D6DA.1.3C3 1D6DB.1D6DB.1.2202 1D6DC.1D6DC.1.3B5",
   "1D6DD.1D6DD.1.3B8 1D6DE.1D6DE.1.3BA 1D6DF.1D6DF.1.3C6 1D6E0.1D6E0.1.3C1 1D6E1.1D6E1.1.3C0",
   "1D6E2.1D6F2.1.3B1 1D6F3.1D6F3.1.3B8 1D6F4.1D6FA.1.3C3 1D6FB.1D6FB.1.2207 1D6FC.1D70C.1.3B1",
   "1D70D.1D70D.1.3C3 1D70E.1D714.1.3C3 1D715.1D715.1.2202 1D716.1D716.1.3B5 1D717.1D717.1.3B8",
   "1D718.1D718.1.3BA 1D719.1D719.1.3C6 1D71A.1D71A.1.3C1 1D71B.1D71B.1.3C0 1D71C.1D72C.1.3B1",
   "1D72D.1D72D.1.3B8 1D72E.1D734.1.3C3 1D735.1D735.1.2207 1D736.1D746.1.3B1 1D747.1D747.1.3C3",
   "1D748.1D74E.1.3C3 1D74F.1D74F.1.2202 1D750.1D750.1.3B5 1D751.1D751.1.3B8 1D752.1D752.1.3BA",
   "1D753.1D753.1.3C6 1D754.1D754.1.3C1 1D755.1D755.1.3C0 1D756.1D766.1.3B1 1D767.1D767.1.3B8",
   "1D768.1D76E.1.3C3 1D76F.1D76F.1.2207 1D770.1D780.1.3B1 1D781.1D781.1.3C3 1D782.1D788.1.3C3",
   "1D789.1D789.1.2202 1D78A.1D78A.1.3B5 1D78B.1D78B.1.3B8 1D78C.1D78C.1.3BA 1D78D.1D78D.1.3C6",
   "1D78E.1D78E.1.3C1 1D78F.1D78F.1.3C0 1D790.1D7A0.1.3B1 1D7A1.1D7A1.1.3B8 1D7A2.1D7A8.1.3C3",
   "1D7A9.1D7A9.1.2207 1D7AA.1D7BA.1.3B1 1D7BB.1D7BB.1.3C3 1D7BC.1D7C2.1.3C3 1D7C3.1D7C3.1.2202",
   "1D7C4.1D7C4.1.3B5 1D7C5.1D7C5.1.3B8 1D7C6.1D7C6.1.3BA 1D7C7.1D7C7.1.3C6 1D7C8.1D7C8.1.3C1",
   "1D7C9.1D7C9.1.3C0 1D7CA.1D7CA.1.3DD 1D7CB.1D7CB.1.3DD 1D7CE.1D7D7.1.30 1D7D8.1D7E1.1.30",
   "1D7E2.1D7EB.1.30 1D7EC.1D7F5.1.30 1D7F6.1D7FF.1.30 1E030.1E038.1.430 1E039.1E03B.1.43A",
   "1E03C.1E046.1.43E 1E047.1E047.1.44B 1E048.1E049.1.44D 1E04A.1E04A.1.A689 1E04B.1E04B.1.4D9",
   "1E04C.1E04C.1.456 1E04D.1E04D.1.458 1E04E.1E04E.1.4E9 1E04F.1E04F.1.4AF 1E050.1E050.1.4CF",
   "1E051.1E059.1.430 1E05A.1E05B.1.43A 1E05C.1E05D.1.43E 1E05E.1E05E.1.441 1E05F.1E064.1.443",
   "1E065.1E066.1.44A 1E067.1E067.1.491 1E068.1E068.1.456 1E069.1E069.1.455 1E06A.1E06A.1.45F",
   "1E06B.1E06B.1.4AB 1E06C.1E06C.1.A651 1E06D.1E06D.1.4B1 1E900.1E921.1.1E922 1EE00.1EE01.1.627",
   "1EE02.1EE02.1.62C 1EE03.1EE03.1.62F 1EE05.1EE05.1.648 1EE06.1EE06.1.632 1EE07.1EE07.1.62D",
   "1EE08.1EE08.1.637 1EE09.1EE09.1.64A 1EE0A.1EE0D.1.643 1EE0E.1EE0E.1.633 1EE0F.1EE0F.1.639",
   "1EE10.1EE10.1.641 1EE11.1EE11.1.635 1EE12.1EE12.1.642 1EE13.1EE13.1.631 1EE14.1EE14.1.634",
   "1EE15.1EE16.1.62A 1EE17.1EE17.1.62E 1EE18.1EE18.1.630 1EE19.1EE19.1.636 1EE1A.1EE1A.1.638",
   "1EE1B.1EE1B.1.63A 1EE1C.1EE1C.1.66E 1EE1D.1EE1D.1.6BA 1EE1E.1EE1E.1.6A1 1EE1F.1EE1F.1.66F",
   "1EE21.1EE21.1.628 1EE22.1EE22.1.62C 1EE24.1EE24.1.647 1EE27.1EE27.1.62D 1EE29.1EE29.1.64A",
   "1EE2A.1EE2D.1.643 1EE2E.1EE2E.1.633 1EE2F.1EE2F.1.639 1EE30.1EE30.1.641 1EE31.1EE31.1.635",
   "1EE32.1EE32.1.642 1EE34.1EE34.1.634 1EE35.1EE36.1.62A 1EE37.1EE37.1.62E 1EE39.1EE39.1.636",
   "1EE3B.1EE3B.1.63A 1EE42.1EE42.1.62C 1EE47.1EE47.1.62D 1EE49.1EE49.1.64A 1EE4B.1EE4D.2.644",
   "1EE4E.1EE4E.1.633 1EE4F.1EE4F.1.639 1EE51.1EE51.1.635 1EE52.1EE52.1.642 1EE54.1EE54.1.634",
   "1EE57.1EE57.1.62E 1EE59.1EE59.1.636 1EE5B.1EE5B.1.63A 1EE5D.1EE5D.1.6BA 1EE5F.1EE5F.1.66F",
   "1EE61.1EE61.1.628 1EE62.1EE62.1.62C 1EE64.1EE64.1.647 1EE67.1EE67.1.62D 1EE68.1EE68.1.637",
   "1EE69.1EE69.1.64A 1EE6A.1EE6C.2.643 1EE6D.1EE6D.1.646 1EE6E.1EE6E.1.633 1EE6F.1EE6F.1.639",
   "1EE70.1EE70.1.641 1EE71.1EE71.1.635 1EE72.1EE72.1.642 1EE74.1EE74.1.634 1EE75.1EE76.1.62A",
   "1EE77.1EE77.1.62E 1EE79.1EE79.1.636 1EE7A.1EE7A.1.638 1EE7B.1EE7B.1.63A 1EE7C.1EE7C.1.66E",
   "1EE7E.1EE7E.1.6A1 1EE80.1EE81.1.627 1EE82.1EE82.1.62C 1EE83.1EE83.1.62F 1EE84.1EE85.1.647",
   "1EE86.1EE86.1.632 1EE87.1EE87.1.62D 1EE88.1EE88.1.637 1EE89.1EE89.1.64A 1EE8B.1EE8D.1.644",
   "1EE8E.1EE8E.1.633 1EE8F.1EE8F.1.639 1EE90.1EE90.1.641 1EE91.1EE91.1.635 1EE92.1EE92.1.642",
   "1EE93.1EE93.1.631 1EE94.1EE94.1.634 1EE95.1EE96.1.62A 1EE97.1EE97.1.62E 1EE98.1EE98.1.630",
   "1EE99.1EE99.1.636 1EE9A.1EE9A.1.638 1EE9B.1EE9B.1.63A 1EEA1.1EEA1.1.628 1EEA2.1EEA2.1.62C",
   "1EEA3.1EEA3.1.62F 1EEA5.1EEA5.1.648 1EEA6.1EEA6.1.632 1EEA7.1EEA7.1.62D 1EEA8.1EEA8.1.637",
   "1EEA9.1EEA9.1.64A 1EEAB.1EEAD.1.644 1EEAE.1EEAE.1.633 1EEAF.1EEAF.1.639 1EEB0.1EEB0.1.641",
   "1EEB1.1EEB1.1.635 1EEB2.1EEB2.1.642 1EEB3.1EEB3.1.631 1EEB4.1EEB4.1.634 1EEB5.1EEB6.1.62A",
   "1EEB7.1EEB7.1.62E 1EEB8.1EEB8.1.630 1EEB9.1EEB9.1.636 1EEBA.1EEBA.1.638 1EEBB.1EEBB.1.63A",
   "1F12B.1F12B.1.63 1F12C.1F12C.1.72 1F130.1F149.1.61 1F202.1F202.1.30B5 1F210.1F210.1.624B",
   "1F211.1F211.1.5B57 1F212.1F212.1.53CC 1F213.1F213.1.30C7 1F214.1F214.1.4E8C",
   "1F215.1F215.1.591A 1F216.1F216.1.89E3 1F217.1F217.1.5929 1F218.1F218.1.4EA4",
   "1F219.1F219.1.6620 1F21A.1F21A.1.7121 1F21B.1F21B.1.6599 1F21C.1F21C.1.524D",
   "1F21D.1F21D.1.5F8C 1F21E.1F21E.1.518D 1F21F.1F21F.1.65B0 1F220.1F220.1.521D",
   "1F221.1F221.1.7D42 1F222.1F222.1.751F 1F223.1F223.1.8CA9 1F224.1F224.1.58F0",
   "1F225.1F225.1.5439 1F226.1F226.1.6F14 1F227.1F227.1.6295 1F228.1F228.1.6355",
   "1F229.1F229.1.4E00 1F22A.1F22A.1.4E09 1F22B.1F22B.1.904A 1F22C.1F22C.1.5DE6",
   "1F22D.1F22D.1.4E2D 1F22E.1F22E.1.53F3 1F22F.1F22F.1.6307 1F230.1F230.1.8D70",
   "1F231.1F231.1.6253 1F232.1F232.1.7981 1F233.1F233.1.7A7A 1F234.1F234.1.5408",
   "1F235.1F235.1.6E80 1F236.1F236.1.6709 1F237.1F237.1.6708 1F238.1F238.1.7533",
   "1F239.1F239.1.5272 1F23A.1F23A.1.55B6 1F23B.1F23B.1.914D 1F250.1F250.1.5F97",
   "1F251.1F251.1.53EF 1FBF0.1FBF9.1.30"]

/-- Characters that stand for several: the first and last of a range, and what each of them
stands for. -/
def spelledRows : List String :=
  ["A8.A8.20.308 AF.AF.20.304 B4.B4.20.301 B8.B8.20.327 BC.BC.31.2044.34 BD.BD.31.2044.32",
   "BE.BE.33.2044.34 130.130.69.307 132.133.69.6A 13F.140.6C.B7 149.149.2BC.6E 1C4.1C6.64.17E",
   "1C7.1C9.6C.6A 1CA.1CC.6E.6A 1F1.1F3.64.7A 2D8.2D8.20.306 2D9.2D9.20.307 2DA.2DA.20.30A",
   "2DB.2DB.20.328 2DC.2DC.20.303 2DD.2DD.20.30B 37A.37A.20.3B9 384.384.20.301",
   "385.385.20.308.301 587.587.565.582 675.675.627.674 676.676.648.674 677.677.6C7.674",
   "678.678.64A.674 E33.E33.E4D.E32 EB3.EB3.ECD.EB2 EDC.EDC.EAB.E99 EDD.EDD.EAB.EA1",
   "F77.F77.FB2.F71.F80 F79.F79.FB3.F71.F80 1E9A.1E9A.61.2BE 1F80.1F80.1F00.3B9",
   "1F81.1F81.1F01.3B9 1F82.1F82.1F02.3B9 1F83.1F83.1F03.3B9 1F84.1F84.1F04.3B9",
   "1F85.1F85.1F05.3B9 1F86.1F86.1F06.3B9 1F87.1F87.1F07.3B9 1F88.1F88.1F00.3B9",
   "1F89.1F89.1F01.3B9 1F8A.1F8A.1F02.3B9 1F8B.1F8B.1F03.3B9 1F8C.1F8C.1F04.3B9",
   "1F8D.1F8D.1F05.3B9 1F8E.1F8E.1F06.3B9 1F8F.1F8F.1F07.3B9 1F90.1F90.1F20.3B9",
   "1F91.1F91.1F21.3B9 1F92.1F92.1F22.3B9 1F93.1F93.1F23.3B9 1F94.1F94.1F24.3B9",
   "1F95.1F95.1F25.3B9 1F96.1F96.1F26.3B9 1F97.1F97.1F27.3B9 1F98.1F98.1F20.3B9",
   "1F99.1F99.1F21.3B9 1F9A.1F9A.1F22.3B9 1F9B.1F9B.1F23.3B9 1F9C.1F9C.1F24.3B9",
   "1F9D.1F9D.1F25.3B9 1F9E.1F9E.1F26.3B9 1F9F.1F9F.1F27.3B9 1FA0.1FA0.1F60.3B9",
   "1FA1.1FA1.1F61.3B9 1FA2.1FA2.1F62.3B9 1FA3.1FA3.1F63.3B9 1FA4.1FA4.1F64.3B9",
   "1FA5.1FA5.1F65.3B9 1FA6.1FA6.1F66.3B9 1FA7.1FA7.1F67.3B9 1FA8.1FA8.1F60.3B9",
   "1FA9.1FA9.1F61.3B9 1FAA.1FAA.1F62.3B9 1FAB.1FAB.1F63.3B9 1FAC.1FAC.1F64.3B9",
   "1FAD.1FAD.1F65.3B9 1FAE.1FAE.1F66.3B9 1FAF.1FAF.1F67.3B9 1FB2.1FB2.1F70.3B9",
   "1FB3.1FB3.3B1.3B9 1FB4.1FB4.3AC.3B9 1FB7.1FB7.1FB6.3B9 1FBC.1FBC.3B1.3B9 1FBD.1FBD.20.313",
   "1FBF.1FBF.20.313 1FC0.1FC0.20.342 1FC1.1FC1.20.308.342 1FC2.1FC2.1F74.3B9 1FC3.1FC3.3B7.3B9",
   "1FC4.1FC4.3AE.3B9 1FC7.1FC7.1FC6.3B9 1FCC.1FCC.3B7.3B9 1FCD.1FCD.20.313.300",
   "1FCE.1FCE.20.313.301 1FCF.1FCF.20.313.342 1FDD.1FDD.20.314.300 1FDE.1FDE.20.314.301",
   "1FDF.1FDF.20.314.342 1FED.1FED.20.308.300 1FEE.1FEE.20.308.301 1FF2.1FF2.1F7C.3B9",
   "1FF3.1FF3.3C9.3B9 1FF4.1FF4.3CE.3B9 1FF7.1FF7.1FF6.3B9 1FFC.1FFC.3C9.3B9 1FFD.1FFD.20.301",
   "1FFE.1FFE.20.314 2017.2017.20.333 2033.2033.2032.2032 2034.2034.2032.2032.2032",
   "2036.2036.2035.2035 2037.2037.2035.2035.2035 203C.203C.21.21 203E.203E.20.305",
   "2047.2047.3F.3F 2048.2048.3F.21 2049.2049.21.3F 2057.2057.2032.2032.2032.2032",
   "20A8.20A8.72.73 2100.2100.61.2F.63 2101.2101.61.2F.73 2103.2103.B0.63 2105.2105.63.2F.6F",
   "2106.2106.63.2F.75 2109.2109.B0.66 2116.2116.6E.6F 2120.2120.73.6D 2121.2121.74.65.6C",
   "2122.2122.74.6D 213B.213B.66.61.78 2150.2150.31.2044.37 2151.2151.31.2044.39",
   "2152.2152.31.2044.31.30 2153.2153.31.2044.33 2154.2154.32.2044.33 2155.2155.31.2044.35",
   "2156.2156.32.2044.35 2157.2157.33.2044.35 2158.2158.34.2044.35 2159.2159.31.2044.36",
   "215A.215A.35.2044.36 215B.215B.31.2044.38 215C.215C.33.2044.38 215D.215D.35.2044.38",
   "215E.215E.37.2044.38 215F.215F.31.2044 2161.2161.69.69 2162.2162.69.69.69 2163.2163.69.76",
   "2165.2165.76.69 2166.2166.76.69.69 2167.2167.76.69.69.69 2168.2168.69.78 216A.216A.78.69",
   "216B.216B.78.69.69 2171.2171.69.69 2172.2172.69.69.69 2173.2173.69.76 2175.2175.76.69",
   "2176.2176.76.69.69 2177.2177.76.69.69.69 2178.2178.69.78 217A.217A.78.69 217B.217B.78.69.69",
   "2189.2189.30.2044.33 222C.222C.222B.222B 222D.222D.222B.222B.222B 222F.222F.222E.222E",
   "2230.2230.222E.222E.222E 2469.2469.31.30 246A.246A.31.31 246B.246B.31.32 246C.246C.31.33",
   "246D.246D.31.34 246E.246E.31.35 246F.246F.31.36 2470.2470.31.37 2471.2471.31.38",
   "2472.2472.31.39 2473.2473.32.30 2474.2474.28.31.29 2475.2475.28.32.29 2476.2476.28.33.29",
   "2477.2477.28.34.29 2478.2478.28.35.29 2479.2479.28.36.29 247A.247A.28.37.29",
   "247B.247B.28.38.29 247C.247C.28.39.29 247D.247D.28.31.30.29 247E.247E.28.31.31.29",
   "247F.247F.28.31.32.29 2480.2480.28.31.33.29 2481.2481.28.31.34.29 2482.2482.28.31.35.29",
   "2483.2483.28.31.36.29 2484.2484.28.31.37.29 2485.2485.28.31.38.29 2486.2486.28.31.39.29",
   "2487.2487.28.32.30.29 249C.249C.28.61.29 249D.249D.28.62.29 249E.249E.28.63.29",
   "249F.249F.28.64.29 24A0.24A0.28.65.29 24A1.24A1.28.66.29 24A2.24A2.28.67.29",
   "24A3.24A3.28.68.29 24A4.24A4.28.69.29 24A5.24A5.28.6A.29 24A6.24A6.28.6B.29",
   "24A7.24A7.28.6C.29 24A8.24A8.28.6D.29 24A9.24A9.28.6E.29 24AA.24AA.28.6F.29",
   "24AB.24AB.28.70.29 24AC.24AC.28.71.29 24AD.24AD.28.72.29 24AE.24AE.28.73.29",
   "24AF.24AF.28.74.29 24B0.24B0.28.75.29 24B1.24B1.28.76.29 24B2.24B2.28.77.29",
   "24B3.24B3.28.78.29 24B4.24B4.28.79.29 24B5.24B5.28.7A.29 2A0C.2A0C.222B.222B.222B.222B",
   "2A74.2A74.3A.3A.3D 2A75.2A75.3D.3D 2A76.2A76.3D.3D.3D 309B.309B.20.3099 309C.309C.20.309A",
   "309F.309F.3088.308A 30FF.30FF.30B3.30C8 3200.3200.28.1100.29 3201.3201.28.1102.29",
   "3202.3202.28.1103.29 3203.3203.28.1105.29 3204.3204.28.1106.29 3205.3205.28.1107.29",
   "3206.3206.28.1109.29 3207.3207.28.110B.29 3208.3208.28.110C.29 3209.3209.28.110E.29",
   "320A.320A.28.110F.29 320B.320B.28.1110.29 320C.320C.28.1111.29 320D.320D.28.1112.29",
   "320E.320E.28.AC00.29 320F.320F.28.B098.29 3210.3210.28.B2E4.29 3211.3211.28.B77C.29",
   "3212.3212.28.B9C8.29 3213.3213.28.BC14.29 3214.3214.28.C0AC.29 3215.3215.28.C544.29",
   "3216.3216.28.C790.29 3217.3217.28.CC28.29 3218.3218.28.CE74.29 3219.3219.28.D0C0.29",
   "321A.321A.28.D30C.29 321B.321B.28.D558.29 321C.321C.28.C8FC.29 321D.321D.28.C624.C804.29",
   "321E.321E.28.C624.D6C4.29 3220.3220.28.4E00.29 3221.3221.28.4E8C.29 3222.3222.28.4E09.29",
   "3223.3223.28.56DB.29 3224.3224.28.4E94.29 3225.3225.28.516D.29 3226.3226.28.4E03.29",
   "3227.3227.28.516B.29 3228.3228.28.4E5D.29 3229.3229.28.5341.29 322A.322A.28.6708.29",
   "322B.322B.28.706B.29 322C.322C.28.6C34.29 322D.322D.28.6728.29 322E.322E.28.91D1.29",
   "322F.322F.28.571F.29 3230.3230.28.65E5.29 3231.3231.28.682A.29 3232.3232.28.6709.29",
   "3233.3233.28.793E.29 3234.3234.28.540D.29 3235.3235.28.7279.29 3236.3236.28.8CA1.29",
   "3237.3237.28.795D.29 3238.3238.28.52B4.29 3239.3239.28.4EE3.29 323A.323A.28.547C.29",
   "323B.323B.28.5B66.29 323C.323C.28.76E3.29 323D.323D.28.4F01.29 323E.323E.28.8CC7.29",
   "323F.323F.28.5354.29 3240.3240.28.796D.29 3241.3241.28.4F11.29 3242.3242.28.81EA.29",
   "3243.3243.28.81F3.29 3250.3250.70.74.65 3251.3251.32.31 3252.3252.32.32 3253.3253.32.33",
   "3254.3254.32.34 3255.3255.32.35 3256.3256.32.36 3257.3257.32.37 3258.3258.32.38",
   "3259.3259.32.39 325A.325A.33.30 325B.325B.33.31 325C.325C.33.32 325D.325D.33.33",
   "325E.325E.33.34 325F.325F.33.35 327C.327C.CC38.ACE0 327D.327D.C8FC.C758 32B1.32B1.33.36",
   "32B2.32B2.33.37 32B3.32B3.33.38 32B4.32B4.33.39 32B5.32B5.34.30 32B6.32B6.34.31",
   "32B7.32B7.34.32 32B8.32B8.34.33 32B9.32B9.34.34 32BA.32BA.34.35 32BB.32BB.34.36",
   "32BC.32BC.34.37 32BD.32BD.34.38 32BE.32BE.34.39 32BF.32BF.35.30 32C0.32C0.31.6708",
   "32C1.32C1.32.6708 32C2.32C2.33.6708 32C3.32C3.34.6708 32C4.32C4.35.6708 32C5.32C5.36.6708",
   "32C6.32C6.37.6708 32C7.32C7.38.6708 32C8.32C8.39.6708 32C9.32C9.31.30.6708",
   "32CA.32CA.31.31.6708 32CB.32CB.31.32.6708 32CC.32CC.68.67 32CD.32CD.65.72.67 32CE.32CE.65.76",
   "32CF.32CF.6C.74.64 32FF.32FF.4EE4.548C 3300.3300.30A2.30D1.30FC.30C8",
   "3301.3301.30A2.30EB.30D5.30A1 3302.3302.30A2.30F3.30DA.30A2 3303.3303.30A2.30FC.30EB",
   "3304.3304.30A4.30CB.30F3.30B0 3305.3305.30A4.30F3.30C1 3306.3306.30A6.30A9.30F3",
   "3307.3307.30A8.30B9.30AF.30FC.30C9 3308.3308.30A8.30FC.30AB.30FC 3309.3309.30AA.30F3.30B9",
   "330A.330A.30AA.30FC.30E0 330B.330B.30AB.30A4.30EA 330C.330C.30AB.30E9.30C3.30C8",
   "330D.330D.30AB.30ED.30EA.30FC 330E.330E.30AC.30ED.30F3 330F.330F.30AC.30F3.30DE",
   "3310.3310.30AE.30AC 3311.3311.30AE.30CB.30FC 3312.3312.30AD.30E5.30EA.30FC",
   "3313.3313.30AE.30EB.30C0.30FC 3314.3314.30AD.30ED 3315.3315.30AD.30ED.30B0.30E9.30E0",
   "3316.3316.30AD.30ED.30E1.30FC.30C8.30EB 3317.3317.30AD.30ED.30EF.30C3.30C8",
   "3318.3318.30B0.30E9.30E0 3319.3319.30B0.30E9.30E0.30C8.30F3",
   "331A.331A.30AF.30EB.30BC.30A4.30ED 331B.331B.30AF.30ED.30FC.30CD 331C.331C.30B1.30FC.30B9",
   "331D.331D.30B3.30EB.30CA 331E.331E.30B3.30FC.30DD 331F.331F.30B5.30A4.30AF.30EB",
   "3320.3320.30B5.30F3.30C1.30FC.30E0 3321.3321.30B7.30EA.30F3.30B0 3322.3322.30BB.30F3.30C1",
   "3323.3323.30BB.30F3.30C8 3324.3324.30C0.30FC.30B9 3325.3325.30C7.30B7 3326.3326.30C9.30EB",
   "3327.3327.30C8.30F3 3328.3328.30CA.30CE 3329.3329.30CE.30C3.30C8 332A.332A.30CF.30A4.30C4",
   "332B.332B.30D1.30FC.30BB.30F3.30C8 332C.332C.30D1.30FC.30C4 332D.332D.30D0.30FC.30EC.30EB",
   "332E.332E.30D4.30A2.30B9.30C8.30EB 332F.332F.30D4.30AF.30EB 3330.3330.30D4.30B3",
   "3331.3331.30D3.30EB 3332.3332.30D5.30A1.30E9.30C3.30C9 3333.3333.30D5.30A3.30FC.30C8",
   "3334.3334.30D6.30C3.30B7.30A7.30EB 3335.3335.30D5.30E9.30F3",
   "3336.3336.30D8.30AF.30BF.30FC.30EB 3337.3337.30DA.30BD 3338.3338.30DA.30CB.30D2",
   "3339.3339.30D8.30EB.30C4 333A.333A.30DA.30F3.30B9 333B.333B.30DA.30FC.30B8",
   "333C.333C.30D9.30FC.30BF 333D.333D.30DD.30A4.30F3.30C8 333E.333E.30DC.30EB.30C8",
   "333F.333F.30DB.30F3 3340.3340.30DD.30F3.30C9 3341.3341.30DB.30FC.30EB",
   "3342.3342.30DB.30FC.30F3 3343.3343.30DE.30A4.30AF.30ED 3344.3344.30DE.30A4.30EB",
   "3345.3345.30DE.30C3.30CF 3346.3346.30DE.30EB.30AF 3347.3347.30DE.30F3.30B7.30E7.30F3",
   "3348.3348.30DF.30AF.30ED.30F3 3349.3349.30DF.30EA 334A.334A.30DF.30EA.30D0.30FC.30EB",
   "334B.334B.30E1.30AC 334C.334C.30E1.30AC.30C8.30F3 334D.334D.30E1.30FC.30C8.30EB",
   "334E.334E.30E4.30FC.30C9 334F.334F.30E4.30FC.30EB 3350.3350.30E6.30A2.30F3",
   "3351.3351.30EA.30C3.30C8.30EB 3352.3352.30EA.30E9 3353.3353.30EB.30D4.30FC",
   "3354.3354.30EB.30FC.30D6.30EB 3355.3355.30EC.30E0 3356.3356.30EC.30F3.30C8.30B2.30F3",
   "3357.3357.30EF.30C3.30C8 3358.3358.30.70B9 3359.3359.31.70B9 335A.335A.32.70B9",
   "335B.335B.33.70B9 335C.335C.34.70B9 335D.335D.35.70B9 335E.335E.36.70B9 335F.335F.37.70B9",
   "3360.3360.38.70B9 3361.3361.39.70B9 3362.3362.31.30.70B9 3363.3363.31.31.70B9",
   "3364.3364.31.32.70B9 3365.3365.31.33.70B9 3366.3366.31.34.70B9 3367.3367.31.35.70B9",
   "3368.3368.31.36.70B9 3369.3369.31.37.70B9 336A.336A.31.38.70B9 336B.336B.31.39.70B9",
   "336C.336C.32.30.70B9 336D.336D.32.31.70B9 336E.336E.32.32.70B9 336F.336F.32.33.70B9",
   "3370.3370.32.34.70B9 3371.3371.68.70.61 3372.3372.64.61 3373.3373.61.75 3374.3374.62.61.72",
   "3375.3375.6F.76 3376.3376.70.63 3377.3377.64.6D 3378.3378.64.6D.32 3379.3379.64.6D.33",
   "337A.337A.69.75 337B.337B.5E73.6210 337C.337C.662D.548C 337D.337D.5927.6B63",
   "337E.337E.660E.6CBB 337F.337F.682A.5F0F.4F1A.793E 3380.3380.70.61 3381.3381.6E.61",
   "3382.3382.3BC.61 3383.3383.6D.61 3384.3384.6B.61 3385.3385.6B.62 3386.3386.6D.62",
   "3387.3387.67.62 3388.3388.63.61.6C 3389.3389.6B.63.61.6C 338A.338A.70.66 338B.338B.6E.66",
   "338C.338C.3BC.66 338D.338D.3BC.67 338E.338E.6D.67 338F.338F.6B.67 3390.3390.68.7A",
   "3391.3391.6B.68.7A 3392.3392.6D.68.7A 3393.3393.67.68.7A 3394.3394.74.68.7A 3395.3395.3BC.6C",
   "3396.3396.6D.6C 3397.3397.64.6C 3398.3398.6B.6C 3399.3399.66.6D 339A.339A.6E.6D",
   "339B.339B.3BC.6D 339C.339C.6D.6D 339D.339D.63.6D 339E.339E.6B.6D 339F.339F.6D.6D.32",
   "33A0.33A0.63.6D.32 33A1.33A1.6D.32 33A2.33A2.6B.6D.32 33A3.33A3.6D.6D.33 33A4.33A4.63.6D.33",
   "33A5.33A5.6D.33 33A6.33A6.6B.6D.33 33A7.33A7.6D.2215.73 33A8.33A8.6D.2215.73.32",
   "33A9.33A9.70.61 33AA.33AA.6B.70.61 33AB.33AB.6D.70.61 33AC.33AC.67.70.61 33AD.33AD.72.61.64",
   "33AE.33AE.72.61.64.2215.73 33AF.33AF.72.61.64.2215.73.32 33B0.33B0.70.73 33B1.33B1.6E.73",
   "33B2.33B2.3BC.73 33B3.33B3.6D.73 33B4.33B4.70.76 33B5.33B5.6E.76 33B6.33B6.3BC.76",
   "33B7.33B7.6D.76 33B8.33B8.6B.76 33B9.33B9.6D.76 33BA.33BA.70.77 33BB.33BB.6E.77",
   "33BC.33BC.3BC.77 33BD.33BD.6D.77 33BE.33BE.6B.77 33BF.33BF.6D.77 33C0.33C0.6B.3C9",
   "33C1.33C1.6D.3C9 33C3.33C3.62.71 33C4.33C4.63.63 33C5.33C5.63.64 33C6.33C6.63.2215.6B.67",
   "33C8.33C8.64.62 33C9.33C9.67.79 33CA.33CA.68.61 33CB.33CB.68.70 33CC.33CC.69.6E",
   "33CD.33CD.6B.6B 33CE.33CE.6B.6D 33CF.33CF.6B.74 33D0.33D0.6C.6D 33D1.33D1.6C.6E",
   "33D2.33D2.6C.6F.67 33D3.33D3.6C.78 33D4.33D4.6D.62 33D5.33D5.6D.69.6C 33D6.33D6.6D.6F.6C",
   "33D7.33D7.70.68 33D9.33D9.70.70.6D 33DA.33DA.70.72 33DB.33DB.73.72 33DC.33DC.73.76",
   "33DD.33DD.77.62 33DE.33DE.76.2215.6D 33DF.33DF.61.2215.6D 33E0.33E0.31.65E5",
   "33E1.33E1.32.65E5 33E2.33E2.33.65E5 33E3.33E3.34.65E5 33E4.33E4.35.65E5 33E5.33E5.36.65E5",
   "33E6.33E6.37.65E5 33E7.33E7.38.65E5 33E8.33E8.39.65E5 33E9.33E9.31.30.65E5",
   "33EA.33EA.31.31.65E5 33EB.33EB.31.32.65E5 33EC.33EC.31.33.65E5 33ED.33ED.31.34.65E5",
   "33EE.33EE.31.35.65E5 33EF.33EF.31.36.65E5 33F0.33F0.31.37.65E5 33F1.33F1.31.38.65E5",
   "33F2.33F2.31.39.65E5 33F3.33F3.32.30.65E5 33F4.33F4.32.31.65E5 33F5.33F5.32.32.65E5",
   "33F6.33F6.32.33.65E5 33F7.33F7.32.34.65E5 33F8.33F8.32.35.65E5 33F9.33F9.32.36.65E5",
   "33FA.33FA.32.37.65E5 33FB.33FB.32.38.65E5 33FC.33FC.32.39.65E5 33FD.33FD.33.30.65E5",
   "33FE.33FE.33.31.65E5 33FF.33FF.67.61.6C FB00.FB00.66.66 FB01.FB01.66.69 FB02.FB02.66.6C",
   "FB03.FB03.66.66.69 FB04.FB04.66.66.6C FB05.FB06.73.74 FB13.FB13.574.576 FB14.FB14.574.565",
   "FB15.FB15.574.56B FB16.FB16.57E.576 FB17.FB17.574.56D FB4F.FB4F.5D0.5DC FBDD.FBDD.6C7.674",
   "FBEA.FBEB.626.627 FBEC.FBED.626.6D5 FBEE.FBEF.626.648 FBF0.FBF1.626.6C7 FBF2.FBF3.626.6C6",
   "FBF4.FBF5.626.6C8 FBF6.FBF8.626.6D0 FBF9.FBFB.626.649 FC00.FC00.626.62C FC01.FC01.626.62D",
   "FC02.FC02.626.645 FC03.FC03.626.649 FC04.FC04.626.64A FC05.FC05.628.62C FC06.FC06.628.62D",
   "FC07.FC07.628.62E FC08.FC08.628.645 FC09.FC09.628.649 FC0A.FC0A.628.64A FC0B.FC0B.62A.62C",
   "FC0C.FC0C.62A.62D FC0D.FC0D.62A.62E FC0E.FC0E.62A.645 FC0F.FC0F.62A.649 FC10.FC10.62A.64A",
   "FC11.FC11.62B.62C FC12.FC12.62B.645 FC13.FC13.62B.649 FC14.FC14.62B.64A FC15.FC15.62C.62D",
   "FC16.FC16.62C.645 FC17.FC17.62D.62C FC18.FC18.62D.645 FC19.FC19.62E.62C FC1A.FC1A.62E.62D",
   "FC1B.FC1B.62E.645 FC1C.FC1C.633.62C FC1D.FC1D.633.62D FC1E.FC1E.633.62E FC1F.FC1F.633.645",
   "FC20.FC20.635.62D FC21.FC21.635.645 FC22.FC22.636.62C FC23.FC23.636.62D FC24.FC24.636.62E",
   "FC25.FC25.636.645 FC26.FC26.637.62D FC27.FC27.637.645 FC28.FC28.638.645 FC29.FC29.639.62C",
   "FC2A.FC2A.639.645 FC2B.FC2B.63A.62C FC2C.FC2C.63A.645 FC2D.FC2D.641.62C FC2E.FC2E.641.62D",
   "FC2F.FC2F.641.62E FC30.FC30.641.645 FC31.FC31.641.649 FC32.FC32.641.64A FC33.FC33.642.62D",
   "FC34.FC34.642.645 FC35.FC35.642.649 FC36.FC36.642.64A FC37.FC37.643.627 FC38.FC38.643.62C",
   "FC39.FC39.643.62D FC3A.FC3A.643.62E FC3B.FC3B.643.644 FC3C.FC3C.643.645 FC3D.FC3D.643.649",
   "FC3E.FC3E.643.64A FC3F.FC3F.644.62C FC40.FC40.644.62D FC41.FC41.644.62E FC42.FC42.644.645",
   "FC43.FC43.644.649 FC44.FC44.644.64A FC45.FC45.645.62C FC46.FC46.645.62D FC47.FC47.645.62E",
   "FC48.FC48.645.645 FC49.FC49.645.649 FC4A.FC4A.645.64A FC4B.FC4B.646.62C FC4C.FC4C.646.62D",
   "FC4D.FC4D.646.62E FC4E.FC4E.646.645 FC4F.FC4F.646.649 FC50.FC50.646.64A FC51.FC51.647.62C",
   "FC52.FC52.647.645 FC53.FC53.647.649 FC54.FC54.647.64A FC55.FC55.64A.62C FC56.FC56.64A.62D",
   "FC57.FC57.64A.62E FC58.FC58.64A.645 FC59.FC59.64A.649 FC5A.FC5A.64A.64A FC5B.FC5B.630.670",
   "FC5C.FC5C.631.670 FC5D.FC5D.649.670 FC5E.FC5E.20.64C.651 FC5F.FC5F.20.64D.651",
   "FC60.FC60.20.64E.651 FC61.FC61.20.64F.651 FC62.FC62.20.650.651 FC63.FC63.20.651.670",
   "FC64.FC64.626.631 FC65.FC65.626.632 FC66.FC66.626.645 FC67.FC67.626.646 FC68.FC68.626.649",
   "FC69.FC69.626.64A FC6A.FC6A.628.631 FC6B.FC6B.628.632 FC6C.FC6C.628.645 FC6D.FC6D.628.646",
   "FC6E.FC6E.628.649 FC6F.FC6F.628.64A FC70.FC70.62A.631 FC71.FC71.62A.632 FC72.FC72.62A.645",
   "FC73.FC73.62A.646 FC74.FC74.62A.649 FC75.FC75.62A.64A FC76.FC76.62B.631 FC77.FC77.62B.632",
   "FC78.FC78.62B.645 FC79.FC79.62B.646 FC7A.FC7A.62B.649 FC7B.FC7B.62B.64A FC7C.FC7C.641.649",
   "FC7D.FC7D.641.64A FC7E.FC7E.642.649 FC7F.FC7F.642.64A FC80.FC80.643.627 FC81.FC81.643.644",
   "FC82.FC82.643.645 FC83.FC83.643.649 FC84.FC84.643.64A FC85.FC85.644.645 FC86.FC86.644.649",
   "FC87.FC87.644.64A FC88.FC88.645.627 FC89.FC89.645.645 FC8A.FC8A.646.631 FC8B.FC8B.646.632",
   "FC8C.FC8C.646.645 FC8D.FC8D.646.646 FC8E.FC8E.646.649 FC8F.FC8F.646.64A FC90.FC90.649.670",
   "FC91.FC91.64A.631 FC92.FC92.64A.632 FC93.FC93.64A.645 FC94.FC94.64A.646 FC95.FC95.64A.649",
   "FC96.FC96.64A.64A FC97.FC97.626.62C FC98.FC98.626.62D FC99.FC99.626.62E FC9A.FC9A.626.645",
   "FC9B.FC9B.626.647 FC9C.FC9C.628.62C FC9D.FC9D.628.62D FC9E.FC9E.628.62E FC9F.FC9F.628.645",
   "FCA0.FCA0.628.647 FCA1.FCA1.62A.62C FCA2.FCA2.62A.62D FCA3.FCA3.62A.62E FCA4.FCA4.62A.645",
   "FCA5.FCA5.62A.647 FCA6.FCA6.62B.645 FCA7.FCA7.62C.62D FCA8.FCA8.62C.645 FCA9.FCA9.62D.62C",
   "FCAA.FCAA.62D.645 FCAB.FCAB.62E.62C FCAC.FCAC.62E.645 FCAD.FCAD.633.62C FCAE.FCAE.633.62D",
   "FCAF.FCAF.633.62E FCB0.FCB0.633.645 FCB1.FCB1.635.62D FCB2.FCB2.635.62E FCB3.FCB3.635.645",
   "FCB4.FCB4.636.62C FCB5.FCB5.636.62D FCB6.FCB6.636.62E FCB7.FCB7.636.645 FCB8.FCB8.637.62D",
   "FCB9.FCB9.638.645 FCBA.FCBA.639.62C FCBB.FCBB.639.645 FCBC.FCBC.63A.62C FCBD.FCBD.63A.645",
   "FCBE.FCBE.641.62C FCBF.FCBF.641.62D FCC0.FCC0.641.62E FCC1.FCC1.641.645 FCC2.FCC2.642.62D",
   "FCC3.FCC3.642.645 FCC4.FCC4.643.62C FCC5.FCC5.643.62D FCC6.FCC6.643.62E FCC7.FCC7.643.644",
   "FCC8.FCC8.643.645 FCC9.FCC9.644.62C FCCA.FCCA.644.62D FCCB.FCCB.644.62E FCCC.FCCC.644.645",
   "FCCD.FCCD.644.647 FCCE.FCCE.645.62C FCCF.FCCF.645.62D FCD0.FCD0.645.62E FCD1.FCD1.645.645",
   "FCD2.FCD2.646.62C FCD3.FCD3.646.62D FCD4.FCD4.646.62E FCD5.FCD5.646.645 FCD6.FCD6.646.647",
   "FCD7.FCD7.647.62C FCD8.FCD8.647.645 FCD9.FCD9.647.670 FCDA.FCDA.64A.62C FCDB.FCDB.64A.62D",
   "FCDC.FCDC.64A.62E FCDD.FCDD.64A.645 FCDE.FCDE.64A.647 FCDF.FCDF.626.645 FCE0.FCE0.626.647",
   "FCE1.FCE1.628.645 FCE2.FCE2.628.647 FCE3.FCE3.62A.645 FCE4.FCE4.62A.647 FCE5.FCE5.62B.645",
   "FCE6.FCE6.62B.647 FCE7.FCE7.633.645 FCE8.FCE8.633.647 FCE9.FCE9.634.645 FCEA.FCEA.634.647",
   "FCEB.FCEB.643.644 FCEC.FCEC.643.645 FCED.FCED.644.645 FCEE.FCEE.646.645 FCEF.FCEF.646.647",
   "FCF0.FCF0.64A.645 FCF1.FCF1.64A.647 FCF2.FCF2.640.64E.651 FCF3.FCF3.640.64F.651",
   "FCF4.FCF4.640.650.651 FCF5.FCF5.637.649 FCF6.FCF6.637.64A FCF7.FCF7.639.649",
   "FCF8.FCF8.639.64A FCF9.FCF9.63A.649 FCFA.FCFA.63A.64A FCFB.FCFB.633.649 FCFC.FCFC.633.64A",
   "FCFD.FCFD.634.649 FCFE.FCFE.634.64A FCFF.FCFF.62D.649 FD00.FD00.62D.64A FD01.FD01.62C.649",
   "FD02.FD02.62C.64A FD03.FD03.62E.649 FD04.FD04.62E.64A FD05.FD05.635.649 FD06.FD06.635.64A",
   "FD07.FD07.636.649 FD08.FD08.636.64A FD09.FD09.634.62C FD0A.FD0A.634.62D FD0B.FD0B.634.62E",
   "FD0C.FD0C.634.645 FD0D.FD0D.634.631 FD0E.FD0E.633.631 FD0F.FD0F.635.631 FD10.FD10.636.631",
   "FD11.FD11.637.649 FD12.FD12.637.64A FD13.FD13.639.649 FD14.FD14.639.64A FD15.FD15.63A.649",
   "FD16.FD16.63A.64A FD17.FD17.633.649 FD18.FD18.633.64A FD19.FD19.634.649 FD1A.FD1A.634.64A",
   "FD1B.FD1B.62D.649 FD1C.FD1C.62D.64A FD1D.FD1D.62C.649 FD1E.FD1E.62C.64A FD1F.FD1F.62E.649",
   "FD20.FD20.62E.64A FD21.FD21.635.649 FD22.FD22.635.64A FD23.FD23.636.649 FD24.FD24.636.64A",
   "FD25.FD25.634.62C FD26.FD26.634.62D FD27.FD27.634.62E FD28.FD28.634.645 FD29.FD29.634.631",
   "FD2A.FD2A.633.631 FD2B.FD2B.635.631 FD2C.FD2C.636.631 FD2D.FD2D.634.62C FD2E.FD2E.634.62D",
   "FD2F.FD2F.634.62E FD30.FD30.634.645 FD31.FD31.633.647 FD32.FD32.634.647 FD33.FD33.637.645",
   "FD34.FD34.633.62C FD35.FD35.633.62D FD36.FD36.633.62E FD37.FD37.634.62C FD38.FD38.634.62D",
   "FD39.FD39.634.62E FD3A.FD3A.637.645 FD3B.FD3B.638.645 FD3C.FD3D.627.64B",
   "FD50.FD50.62A.62C.645 FD51.FD52.62A.62D.62C FD53.FD53.62A.62D.645 FD54.FD54.62A.62E.645",
   "FD55.FD55.62A.645.62C FD56.FD56.62A.645.62D FD57.FD57.62A.645.62E FD58.FD59.62C.645.62D",
   "FD5A.FD5A.62D.645.64A FD5B.FD5B.62D.645.649 FD5C.FD5C.633.62D.62C FD5D.FD5D.633.62C.62D",
   "FD5E.FD5E.633.62C.649 FD5F.FD60.633.645.62D FD61.FD61.633.645.62C FD62.FD63.633.645.645",
   "FD64.FD65.635.62D.62D FD66.FD66.635.645.645 FD67.FD68.634.62D.645 FD69.FD69.634.62C.64A",
   "FD6A.FD6B.634.645.62E FD6C.FD6D.634.645.645 FD6E.FD6E.636.62D.649 FD6F.FD70.636.62E.645",
   "FD71.FD72.637.645.62D FD73.FD73.637.645.645 FD74.FD74.637.645.64A FD75.FD75.639.62C.645",
   "FD76.FD77.639.645.645 FD78.FD78.639.645.649 FD79.FD79.63A.645.645 FD7A.FD7A.63A.645.64A",
   "FD7B.FD7B.63A.645.649 FD7C.FD7D.641.62E.645 FD7E.FD7E.642.645.62D FD7F.FD7F.642.645.645",
   "FD80.FD80.644.62D.645 FD81.FD81.644.62D.64A FD82.FD82.644.62D.649 FD83.FD84.644.62C.62C",
   "FD85.FD86.644.62E.645 FD87.FD88.644.645.62D FD89.FD89.645.62D.62C FD8A.FD8A.645.62D.645",
   "FD8B.FD8B.645.62D.64A FD8C.FD8C.645.62C.62D FD8D.FD8D.645.62C.645 FD8E.FD8E.645.62E.62C",
   "FD8F.FD8F.645.62E.645 FD92.FD92.645.62C.62E FD93.FD93.647.645.62C FD94.FD94.647.645.645",
   "FD95.FD95.646.62D.645 FD96.FD96.646.62D.649 FD97.FD98.646.62C.645 FD99.FD99.646.62C.649",
   "FD9A.FD9A.646.645.64A FD9B.FD9B.646.645.649 FD9C.FD9D.64A.645.645 FD9E.FD9E.628.62E.64A",
   "FD9F.FD9F.62A.62C.64A FDA0.FDA0.62A.62C.649 FDA1.FDA1.62A.62E.64A FDA2.FDA2.62A.62E.649",
   "FDA3.FDA3.62A.645.64A FDA4.FDA4.62A.645.649 FDA5.FDA5.62C.645.64A FDA6.FDA6.62C.62D.649",
   "FDA7.FDA7.62C.645.649 FDA8.FDA8.633.62E.649 FDA9.FDA9.635.62D.64A FDAA.FDAA.634.62D.64A",
   "FDAB.FDAB.636.62D.64A FDAC.FDAC.644.62C.64A FDAD.FDAD.644.645.64A FDAE.FDAE.64A.62D.64A",
   "FDAF.FDAF.64A.62C.64A FDB0.FDB0.64A.645.64A FDB1.FDB1.645.645.64A FDB2.FDB2.642.645.64A",
   "FDB3.FDB3.646.62D.64A FDB4.FDB4.642.645.62D FDB5.FDB5.644.62D.645 FDB6.FDB6.639.645.64A",
   "FDB7.FDB7.643.645.64A FDB8.FDB8.646.62C.62D FDB9.FDB9.645.62E.64A FDBA.FDBA.644.62C.645",
   "FDBB.FDBB.643.645.645 FDBC.FDBC.644.62C.645 FDBD.FDBD.646.62C.62D FDBE.FDBE.62C.62D.64A",
   "FDBF.FDBF.62D.62C.64A FDC0.FDC0.645.62C.64A FDC1.FDC1.641.645.64A FDC2.FDC2.628.62D.64A",
   "FDC3.FDC3.643.645.645 FDC4.FDC4.639.62C.645 FDC5.FDC5.635.645.645 FDC6.FDC6.633.62E.64A",
   "FDC7.FDC7.646.62C.64A FDF0.FDF0.635.644.6D2 FDF1.FDF1.642.644.6D2 FDF2.FDF2.627.644.644.647",
   "FDF3.FDF3.627.643.628.631 FDF4.FDF4.645.62D.645.62F FDF5.FDF5.635.644.639.645",
   "FDF6.FDF6.631.633.648.644 FDF7.FDF7.639.644.64A.647 FDF8.FDF8.648.633.644.645",
   "FDF9.FDF9.635.644.649",
   "FDFA.FDFA.635.644.649.20.627.644.644.647.20.639.644.64A.647.20.648.633.644.645",
   "FDFB.FDFB.62C.644.20.62C.644.627.644.647 FDFC.FDFC.631.6CC.627.644 FE49.FE4C.20.305",
   "FE70.FE70.20.64B FE71.FE71.640.64B FE72.FE72.20.64C FE74.FE74.20.64D FE76.FE76.20.64E",
   "FE77.FE77.640.64E FE78.FE78.20.64F FE79.FE79.640.64F FE7A.FE7A.20.650 FE7B.FE7B.640.650",
   "FE7C.FE7C.20.651 FE7D.FE7D.640.651 FE7E.FE7E.20.652 FE7F.FE7F.640.652 FEF5.FEF6.644.622",
   "FEF7.FEF8.644.623 FEF9.FEFA.644.625 FEFB.FEFC.644.627 FFE3.FFE3.20.304 1F101.1F101.30.2C",
   "1F102.1F102.31.2C 1F103.1F103.32.2C 1F104.1F104.33.2C 1F105.1F105.34.2C 1F106.1F106.35.2C",
   "1F107.1F107.36.2C 1F108.1F108.37.2C 1F109.1F109.38.2C 1F10A.1F10A.39.2C 1F110.1F110.28.61.29",
   "1F111.1F111.28.62.29 1F112.1F112.28.63.29 1F113.1F113.28.64.29 1F114.1F114.28.65.29",
   "1F115.1F115.28.66.29 1F116.1F116.28.67.29 1F117.1F117.28.68.29 1F118.1F118.28.69.29",
   "1F119.1F119.28.6A.29 1F11A.1F11A.28.6B.29 1F11B.1F11B.28.6C.29 1F11C.1F11C.28.6D.29",
   "1F11D.1F11D.28.6E.29 1F11E.1F11E.28.6F.29 1F11F.1F11F.28.70.29 1F120.1F120.28.71.29",
   "1F121.1F121.28.72.29 1F122.1F122.28.73.29 1F123.1F123.28.74.29 1F124.1F124.28.75.29",
   "1F125.1F125.28.76.29 1F126.1F126.28.77.29 1F127.1F127.28.78.29 1F128.1F128.28.79.29",
   "1F129.1F129.28.7A.29 1F12A.1F12A.3014.73.3015 1F12D.1F12D.63.64 1F12E.1F12E.77.7A",
   "1F14A.1F14A.68.76 1F14B.1F14B.6D.76 1F14C.1F14C.73.64 1F14D.1F14D.73.73 1F14E.1F14E.70.70.76",
   "1F14F.1F14F.77.63 1F16A.1F16A.6D.63 1F16B.1F16B.6D.64 1F16C.1F16C.6D.72 1F190.1F190.64.6A",
   "1F200.1F200.307B.304B 1F201.1F201.30B3.30B3 1F240.1F240.3014.672C.3015",
   "1F241.1F241.3014.4E09.3015 1F242.1F242.3014.4E8C.3015 1F243.1F243.3014.5B89.3015",
   "1F244.1F244.3014.70B9.3015 1F245.1F245.3014.6253.3015 1F246.1F246.3014.76D7.3015",
   "1F247.1F247.3014.52DD.3015 1F248.1F248.3014.6557.3015"]

/-- Ranges of characters that are left out. -/
def droppedRows : List String :=
  ["AD.AD 34F.34F 115F.1160 17B4.17B5 180B.180F 200B.200B 2060.2064 206A.206F 3164.3164",
   "FE00.FE0F FEFF.FEFF FFA0.FFA0 1BCA0.1BCA3 1D173.1D17A E0100.E01EF"]

/-- Ranges of characters that no host name may hold. -/
def refusedRows : List String :=
  ["80.9F 378.379 380.383 38B.38B 38D.38D 3A2.3A2 530.530 557.558 58B.58C 590.590 5C8.5CF",
   "5EB.5EE 5F5.605 61C.61C 6DD.6DD 70E.70F 74B.74C 7B2.7BF 7FB.7FC 82E.82F 83F.83F 85C.85D",
   "85F.85F 86B.86F 890.896 8E2.8E2 984.984 98D.98E 991.992 9A9.9A9 9B1.9B1 9B3.9B5 9BA.9BB",
   "9C5.9C6 9C9.9CA 9CF.9D6 9D8.9DB 9DE.9DE 9E4.9E5 9FF.A00 A04.A04 A0B.A0E A11.A12 A29.A29",
   "A31.A31 A34.A34 A37.A37 A3A.A3B A3D.A3D A43.A46 A49.A4A A4E.A50 A52.A58 A5D.A5D A5F.A65",
   "A77.A80 A84.A84 A8E.A8E A92.A92 AA9.AA9 AB1.AB1 AB4.AB4 ABA.ABB AC6.AC6 ACA.ACA ACE.ACF",
   "AD1.ADF AE4.AE5 AF2.AF8 B00.B00 B04.B04 B0D.B0E B11.B12 B29.B29 B31.B31 B34.B34 B3A.B3B",
   "B45.B46 B49.B4A B4E.B54 B58.B5B B5E.B5E B64.B65 B78.B81 B84.B84 B8B.B8D B91.B91 B96.B98",
   "B9B.B9B B9D.B9D BA0.BA2 BA5.BA7 BAB.BAD BBA.BBD BC3.BC5 BC9.BC9 BCE.BCF BD1.BD6 BD8.BE5",
   "BFB.BFF C0D.C0D C11.C11 C29.C29 C3A.C3B C45.C45 C49.C49 C4E.C54 C57.C57 C5B.C5B C5E.C5F",
   "C64.C65 C70.C76 C8D.C8D C91.C91 CA9.CA9 CB4.CB4 CBA.CBB CC5.CC5 CC9.CC9 CCE.CD4 CD7.CDB",
   "CDF.CDF CE4.CE5 CF0.CF0 CF4.CFF D0D.D0D D11.D11 D45.D45 D49.D49 D50.D53 D64.D65 D80.D80",
   "D84.D84 D97.D99 DB2.DB2 DBC.DBC DBE.DBF DC7.DC9 DCB.DCE DD5.DD5 DD7.DD7 DE0.DE5 DF0.DF1",
   "DF5.E00 E3B.E3E E5C.E80 E83.E83 E85.E85 E8B.E8B EA4.EA4 EA6.EA6 EBE.EBF EC5.EC5 EC7.EC7",
   "ECF.ECF EDA.EDB EE0.EFF F48.F48 F6D.F70 F98.F98 FBD.FBD FCD.FCD FDB.FFF 10C6.10C6 10C8.10CC",
   "10CE.10CF 1249.1249 124E.124F 1257.1257 1259.1259 125E.125F 1289.1289 128E.128F 12B1.12B1",
   "12B6.12B7 12BF.12BF 12C1.12C1 12C6.12C7 12D7.12D7 1311.1311 1316.1317 135B.135C 137D.137F",
   "139A.139F 13F6.13F7 13FE.13FF 1680.1680 169D.169F 16F9.16FF 1716.171E 1737.173F 1754.175F",
   "176D.176D 1771.1771 1774.177F 17DE.17DF 17EA.17EF 17FA.17FF 181A.181F 1879.187F 18AB.18AF",
   "18F6.18FF 191F.191F 192C.192F 193C.193F 1941.1943 196E.196F 1975.197F 19AC.19AF 19CA.19CF",
   "19DB.19DD 1A1C.1A1D 1A5F.1A5F 1A7D.1A7E 1A8A.1A8F 1A9A.1A9F 1AAE.1AAF 1ADE.1ADF 1AEC.1AFF",
   "1B4D.1B4D 1BF4.1BFB 1C38.1C3A 1C4A.1C4C 1C8B.1C8F 1CBB.1CBC 1CC8.1CCF 1CFB.1CFF 1F16.1F17",
   "1F1E.1F1F 1F46.1F47 1F4E.1F4F 1F58.1F58 1F5A.1F5A 1F5C.1F5C 1F5E.1F5E 1F7E.1F7F 1FB5.1FB5",
   "1FC5.1FC5 1FD4.1FD5 1FDC.1FDC 1FF0.1FF1 1FF5.1FF5 1FFF.1FFF 200E.200F 2024.2026 2028.202E",
   "2065.2069 2072.2073 208F.208F 209D.209F 20C2.20CF 20F1.20FF 218C.218F 242A.243F 244B.245F",
   "2488.249B 2B74.2B75 2CF4.2CF8 2D26.2D26 2D28.2D2C 2D2E.2D2F 2D68.2D6E 2D71.2D7E 2D97.2D9F",
   "2DA7.2DA7 2DAF.2DAF 2DB7.2DB7 2DBF.2DBF 2DC7.2DC7 2DCF.2DCF 2DD7.2DD7 2DDF.2DDF 2E5E.2E7F",
   "2E9A.2E9A 2EF4.2EFF 2FD6.2FFF 3040.3040 3097.3098 3100.3104 3130.3130 318F.318F 31E6.31EF",
   "321F.321F 33C2.33C2 33C7.33C7 33D8.33D8 A48D.A48F A4C7.A4CF A62C.A63F A6F8.A6FF A7DD.A7F0",
   "A82D.A82F A83A.A83F A878.A87F A8C6.A8CD A8DA.A8DF A954.A95E A97D.A97F A9CE.A9CE A9DA.A9DD",
   "A9FF.A9FF AA37.AA3F AA4E.AA4F AA5A.AA5B AAC3.AADA AAF7.AB00 AB07.AB08 AB0F.AB10 AB17.AB1F",
   "AB27.AB27 AB2F.AB2F AB6C.AB6F ABEE.ABEF ABFA.ABFF D7A4.D7AF D7C7.D7CA D7FC.F8FF FA6E.FA6F",
   "FADA.FAFF FB07.FB12 FB18.FB1C FB37.FB37 FB3D.FB3D FB3F.FB3F FB42.FB42 FB45.FB45 FDD0.FDEF",
   "FE12.FE12 FE19.FE1F FE30.FE30 FE52.FE53 FE67.FE67 FE6C.FE6F FE75.FE75 FEFD.FEFE FF00.FF00",
   "FFBF.FFC1 FFC8.FFC9 FFD0.FFD1 FFD8.FFD9 FFDD.FFDF FFE7.FFE7 FFEF.FFFF 1000C.1000C",
   "10027.10027 1003B.1003B 1003E.1003E 1004E.1004F 1005E.1007F 100FB.100FF 10103.10106",
   "10134.10136 1018F.1018F 1019D.1019F 101A1.101CF 101FE.1027F 1029D.1029F 102D1.102DF",
   "102FC.102FF 10324.1032C 1034B.1034F 1037B.1037F 1039E.1039E 103C4.103C7 103D6.103FF",
   "1049E.1049F 104AA.104AF 104D4.104D7 104FC.104FF 10528.1052F 10564.1056E 1057B.1057B",
   "1058B.1058B 10593.10593 10596.10596 105A2.105A2 105B2.105B2 105BA.105BA 105BD.105BF",
   "105F4.105FF 10737.1073F 10756.1075F 10768.1077F 10786.10786 107B1.107B1 107BB.107FF",
   "10806.10807 10809.10809 10836.10836 10839.1083B 1083D.1083E 10856.10856 1089F.108A6",
   "108B0.108DF 108F3.108F3 108F6.108FA 1091C.1091E 1093A.1093E 1095A.1097F 109B8.109BB",
   "109D0.109D1 10A04.10A04 10A07.10A0B 10A14.10A14 10A18.10A18 10A36.10A37 10A3B.10A3E",
   "10A49.10A4F 10A59.10A5F 10AA0.10ABF 10AE7.10AEA 10AF7.10AFF 10B36.10B38 10B56.10B57",
   "10B73.10B77 10B92.10B98 10B9D.10BA8 10BB0.10BFF 10C49.10C7F 10CB3.10CBF 10CF3.10CF9",
   "10D28.10D2F 10D3A.10D3F 10D66.10D68 10D86.10D8D 10D90.10E5F 10E7F.10E7F 10EAA.10EAA",
   "10EAE.10EAF 10EB2.10EC1 10EC8.10ECF 10ED9.10EF9 10F28.10F2F 10F5A.10F6F 10F8A.10FAF",
   "10FCC.10FDF 10FF7.10FFF 1104E.11051 11076.1107E 110BD.110BD 110C3.110CF 110E9.110EF",
   "110FA.110FF 11135.11135 11148.1114F 11177.1117F 111E0.111E0 111F5.111FF 11212.11212",
   "11242.1127F 11287.11287 11289.11289 1128E.1128E 1129E.1129E 112AA.112AF 112EB.112EF",
   "112FA.112FF 11304.11304 1130D.1130E 11311.11312 11329.11329 11331.11331 11334.11334",
   "1133A.1133A 11345.11346 11349.1134A 1134E.1134F 11351.11356 11358.1135C 11364.11365",
   "1136D.1136F 11375.1137F 1138A.1138A 1138C.1138D 1138F.1138F 113B6.113B6 113C1.113C1",
   "113C3.113C4 113C6.113C6 113CB.113CB 113D6.113D6 113D9.113E0 113E3.113FF 1145C.1145C",
   "11462.1147F 114C8.114CF 114DA.1157F 115B6.115B7 115DE.115FF 11645.1164F 1165A.1165F",
   "1166D.1167F 116BA.116BF 116CA.116CF 116E4.116FF 1171B.1171C 1172C.1172F 11747.117FF",
   "1183C.1189F 118F3.118FE 11907.11908 1190A.1190B 11914.11914 11917.11917 11936.11936",
   "11939.1193A 11947.1194F 1195A.1199F 119A8.119A9 119D8.119D9 119E5.119FF 11A48.11A4F",
   "11AA3.11AAF 11AF9.11AFF 11B0A.11B5F 11B68.11BBF 11BE2.11BEF 11BFA.11BFF 11C09.11C09",
   "11C37.11C37 11C46.11C4F 11C6D.11C6F 11C90.11C91 11CA8.11CA8 11CB7.11CFF 11D07.11D07",
   "11D0A.11D0A 11D37.11D39 11D3B.11D3B 11D3E.11D3E 11D48.11D4F 11D5A.11D5F 11D66.11D66",
   "11D69.11D69 11D8F.11D8F 11D92.11D92 11D99.11D9F 11DAA.11DAF 11DDC.11DDF 11DEA.11EDF",
   "11EF9.11EFF 11F11.11F11 11F3B.11F3D 11F5B.11FAF 11FB1.11FBF 11FF2.11FFE 1239A.123FF",
   "1246F.1246F 12475.1247F 12544.12F8F 12FF3.12FFF 13430.1343F 13456.1345F 143FB.143FF",
   "14647.160FF 1613A.167FF 16A39.16A3F 16A5F.16A5F 16A6A.16A6D 16ABF.16ABF 16ACA.16ACF",
   "16AEE.16AEF 16AF6.16AFF 16B46.16B4F 16B5A.16B5A 16B62.16B62 16B78.16B7C 16B90.16D3F",
   "16D7A.16E3F 16E9B.16E9F 16EB9.16EBA 16ED4.16EFF 16F4B.16F4E 16F88.16F8E 16FA0.16FDF",
   "16FE5.16FEF 16FF7.16FFF 18CD6.18CFE 18D1F.18D7F 18DF3.1AFEF 1AFF4.1AFF4 1AFFC.1AFFC",
   "1AFFF.1AFFF 1B123.1B131 1B133.1B14F 1B153.1B154 1B156.1B163 1B168.1B16F 1B2FC.1BBFF",
   "1BC6B.1BC6F 1BC7D.1BC7F 1BC89.1BC8F 1BC9A.1BC9B 1BCA4.1CBFF 1CCFD.1CCFF 1CEB4.1CEB9",
   "1CED1.1CEDF 1CEF1.1CEFF 1CF2E.1CF2F 1CF47.1CF4F 1CFC4.1CFFF 1D0F6.1D0FF 1D127.1D128",
   "1D1EB.1D1FF 1D246.1D2BF 1D2D4.1D2DF 1D2F4.1D2FF 1D357.1D35F 1D379.1D3FF 1D455.1D455",
   "1D49D.1D49D 1D4A0.1D4A1 1D4A3.1D4A4 1D4A7.1D4A8 1D4AD.1D4AD 1D4BA.1D4BA 1D4BC.1D4BC",
   "1D4C4.1D4C4 1D506.1D506 1D50B.1D50C 1D515.1D515 1D51D.1D51D 1D53A.1D53A 1D53F.1D53F",
   "1D545.1D545 1D547.1D549 1D551.1D551 1D6A6.1D6A7 1D7CC.1D7CD 1DA8C.1DA9A 1DAA0.1DAA0",
   "1DAB0.1DEFF 1DF1F.1DF24 1DF2B.1DFFF 1E007.1E007 1E019.1E01A 1E022.1E022 1E025.1E025",
   "1E02B.1E02F 1E06E.1E08E 1E090.1E0FF 1E12D.1E12F 1E13E.1E13F 1E14A.1E14D 1E150.1E28F",
   "1E2AF.1E2BF 1E2FA.1E2FE 1E300.1E4CF 1E4FA.1E5CF 1E5FB.1E5FE 1E600.1E6BF 1E6DF.1E6DF",
   "1E6F6.1E6FD 1E700.1E7DF 1E7E7.1E7E7 1E7EC.1E7EC 1E7EF.1E7EF 1E7FF.1E7FF 1E8C5.1E8C6",
   "1E8D7.1E8FF 1E94C.1E94F 1E95A.1E95D 1E960.1EC70 1ECB5.1ED00 1ED3E.1EDFF 1EE04.1EE04",
   "1EE20.1EE20 1EE23.1EE23 1EE25.1EE26 1EE28.1EE28 1EE33.1EE33 1EE38.1EE38 1EE3A.1EE3A",
   "1EE3C.1EE41 1EE43.1EE46 1EE48.1EE48 1EE4A.1EE4A 1EE4C.1EE4C 1EE50.1EE50 1EE53.1EE53",
   "1EE55.1EE56 1EE58.1EE58 1EE5A.1EE5A 1EE5C.1EE5C 1EE5E.1EE5E 1EE60.1EE60 1EE63.1EE63",
   "1EE65.1EE66 1EE6B.1EE6B 1EE73.1EE73 1EE78.1EE78 1EE7D.1EE7D 1EE7F.1EE7F 1EE8A.1EE8A",
   "1EE9C.1EEA0 1EEA4.1EEA4 1EEAA.1EEAA 1EEBC.1EEEF 1EEF2.1EFFF 1F02C.1F02F 1F094.1F09F",
   "1F0AF.1F0B0 1F0C0.1F0C0 1F0D0.1F0D0 1F0F6.1F100 1F1AE.1F1E5 1F203.1F20F 1F23C.1F23F",
   "1F249.1F24F 1F252.1F25F 1F266.1F2FF 1F6D9.1F6DB 1F6ED.1F6EF 1F6FD.1F6FF 1F7DA.1F7DF",
   "1F7EC.1F7EF 1F7F1.1F7FF 1F80C.1F80F 1F848.1F84F 1F85A.1F85F 1F888.1F88F 1F8AE.1F8AF",
   "1F8BC.1F8BF 1F8C2.1F8CF 1F8D9.1F8FF 1FA58.1FA5F 1FA6E.1FA6F 1FA7D.1FA7F 1FA8B.1FA8D",
   "1FAC7.1FAC7 1FAC9.1FACC 1FADD.1FADE 1FAEB.1FAEE 1FAF9.1FAFF 1FB93.1FB93 1FBFB.1FFFF",
   "2A6E0.2A6FF 2B81E.2B81F 2CEAE.2CEAF 2EBE1.2EBEF 2EE5E.2F7FF 2FA1E.2FFFF 3134B.3134F",
   "3347A.E00FF E01F0.10FFFF"]

end LibraryScout.Unicode
